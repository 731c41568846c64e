import ChatServer.Atomic.GreedyRuns
import ChatServer.Model.Client

/-!
The input loop of the chat client: what `handle_user_input` makes of one line. Commands
are told by a literal beginning or as the whole line, private messages by a regular
expression, and every other line is a public message.
-/
namespace ClientInput
open ChatProtocol ChatClient GreedyRuns

/-- `std::isspace` and `\s` in the C locale. -/
def isspace (c : Char) : Bool := c.toNat == 32 || (9 ≤ c.toNat && c.toNat ≤ 13)

/-- `.` of the ECMAScript grammar: neither a line feed nor a carriage return. -/
def isDot (c : Char) : Bool := c.toNat != 10 && c.toNat != 13

/-- `ss >> word`: the word, empty if there is none, and what is left of the stream. -/
def extract (stream : List Char) : String × List Char :=
  let rest := stream.dropWhile isspace
  (String.ofList (rest.takeWhile (fun c => !isspace c)), rest.dropWhile (fun c => !isspace c))

def startsWith (line beginning : String) : Bool := beginning.toList.isPrefixOf line.toList

def substr (line : String) (start : Nat) : String := String.ofList (line.toList.drop start)

/-- The pattern `^@(\S+)\s+(.+)`. -/
def pmPattern : List (Piece Char) :=
  [.one (· == '@'), .plus (fun c => !isspace c), .plus isspace, .plus isDot]

def matchPm (line : String) : Option (String × String) :=
  match matchAll pmPattern line.toList with
  | some [_, name, _, content] => some (String.ofList name, String.ofList content)
  | _ => none

inductive Handled where
  | skips
  | quits
  | shows (note : String)
  | sends (e : Envelope)
  deriving DecidableEq, Repr

def runCommand (client : Client) (command : Command) : Handled :=
  match client.handleUserInput command with
  | some e => .sends e
  | none => .shows "[System] You are not in any room to leave."

def userAndPass (line : String) : String × String :=
  let afterCommand := (extract line.toList).2
  ((extract afterCommand).1, (extract (extract afterCommand).2).1)

/-- Only the registration asks whether both words are there. -/
def sendRegistration (user pass : String) : Handled :=
  if user = "" ∨ pass = "" then .shows "[System] Usage: /register <username> <password>"
  else .sends (envelope (.registrationRequest ⟨user, pass⟩))

def sendMessage (line : String) : Handled :=
  match matchPm line with
  | some (name, content) => .sends (envelope (.privateMessageRequest ⟨name, content⟩))
  | none => .sends (envelope (.publicMessage ⟨line⟩))

def handleLine (client : Client) (line : String) : Handled :=
  if line = "" then .skips
  else if line = "/quit" then .quits
  else if startsWith line "/register " then
    sendRegistration (userAndPass line).1 (userAndPass line).2
  else if startsWith line "/login " then
    .sends (envelope (.loginRequest ⟨(userAndPass line).1, (userAndPass line).2⟩))
  else if startsWith line "/create " then runCommand client (.create (substr line 8))
  else if startsWith line "/join " then runCommand client (.join (substr line 6))
  else if line = "/leave" then runCommand client .leave
  else sendMessage line

def handleUserInput : List (Client × String) → List Envelope
  | [] => []
  | (client, line) :: rest => match handleLine client line with
    | .quits => []
    | .sends e => e :: handleUserInput rest
    | .skips | .shows _ => handleUserInput rest

end ClientInput
