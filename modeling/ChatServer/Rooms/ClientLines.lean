import ChatServer.Model.ClientInput

/-!
What the client shows to a room. A line that begins with a command, or that names one
receiver, is not meant for the room. It stays away from the room exactly when it is
spelled as `handle_user_input` tests it: the same letters at the very beginning, and no
line break inside a private message.
-/
namespace ClientLines
open ChatProtocol ChatClient GreedyRuns ClientInput

def firstToken (line : String) : String := (extract line.toList).1

def commands : List String := ["/register", "/login", "/create", "/join", "/leave", "/quit"]

def SentPublicly (client : Client) (line : String) : Prop :=
  ∃ content, handleLine client line = .sends (envelope (.publicMessage ⟨content⟩))

structure PrivateLine (line name content : String) : Prop where
  split : ∃ blanks, line.toList = '@' :: (name.toList ++ (blanks ++ content.toList)) ∧
    blanks ≠ [] ∧ ∀ c ∈ blanks, isspace c = true
  named : name.toList ≠ [] ∧ ∀ c ∈ name.toList, isspace c = false
  written : ∃ c ∈ content.toList.head?, isspace c = false

/-- Commands do not reach the room, and private messages reach their receiver. -/
structure KeptFromRoom (client : Client) (line : String) : Prop where
  command : firstToken line ∈ commands → ¬ SentPublicly client line
  direct : ∀ name content, PrivateLine line name content →
    handleLine client line = .sends (envelope (.privateMessageRequest ⟨name, content⟩))

def TestsAsCommand (line : String) : Prop :=
  line = "/quit" ∨ line = "/leave" ∨
    ∃ beginning ∈ ["/register ", "/login ", "/create ", "/join "], startsWith line beginning = true

/-- Commands are spelled as they are tested, and private messages have no line break. -/
structure WellSpelled (line : String) : Prop where
  command : firstToken line ∈ commands → TestsAsCommand line
  direct : ∀ name content, PrivateLine line name content → ∀ c ∈ content.toList, isDot c = true

theorem sends_command (client : Client) (command : Command) (content : String) :
    runCommand client command ≠ .sends (envelope (.publicMessage ⟨content⟩)) := by
  unfold runCommand Client.handleUserInput
  cases command with
  | create roomName => simp [envelope]
  | join roomName => simp [envelope]
  | leave =>
    by_cases outside : client.currentRoom = "" <;> simp [outside, envelope]

theorem sends_registration (user pass content : String) :
    sendRegistration user pass ≠ .sends (envelope (.publicMessage ⟨content⟩)) := by
  unfold sendRegistration
  split <;> simp [envelope]

theorem command_not_public {client : Client} {line : String} (tested : TestsAsCommand line) :
    ¬ SentPublicly client line := by
  intro public_line
  obtain ⟨content, sent⟩ := public_line
  unfold handleLine at sent
  split_ifs at sent with empty quit register login create join leave
  · exact sends_registration _ _ content sent
  · simp [envelope] at sent
  · exact sends_command client _ content sent
  · exact sends_command client _ content sent
  · exact sends_command client _ content sent
  · rcases tested with quits | leaves | ⟨beginning, one, begins⟩
    · exact quit quits
    · exact leave leaves
    · simp only [List.mem_cons, List.not_mem_nil, or_false] at one
      rcases one with it | it | it | it
      · exact register (it ▸ begins)
      · exact login (it ▸ begins)
      · exact create (it ▸ begins)
      · exact join (it ▸ begins)

theorem handleLine_untested (client : Client) {line : String} (given : line ≠ "")
    (untested : ¬ TestsAsCommand line) : handleLine client line = sendMessage line := by
  have quit : line ≠ "/quit" := fun it => untested (Or.inl it)
  have leave : line ≠ "/leave" := fun it => untested (Or.inr (Or.inl it))
  have begins : ∀ beginning ∈ ["/register ", "/login ", "/create ", "/join "],
      startsWith line beginning ≠ true :=
    fun beginning one begins => untested (Or.inr (Or.inr ⟨beginning, one, begins⟩))
  unfold handleLine
  rw [if_neg given, if_neg quit, if_neg (begins "/register " (by simp)),
    if_neg (begins "/login " (by simp)), if_neg (begins "/create " (by simp)),
    if_neg (begins "/join " (by simp)), if_neg leave]

theorem head_of_firstToken {line : String} (at_sign : line.toList.head? = some '@') :
    (firstToken line).toList.head? = some '@' := by
  obtain ⟨rest, same⟩ := List.head?_eq_some_iff.mp at_sign
  simp [firstToken, extract, same, isspace]

theorem head_of_test {line : String} (tested : TestsAsCommand line) :
    line.toList.head? = some '/' := by
  rcases tested with quits | leaves | ⟨beginning, one, begins⟩
  · rw [quits]
    decide
  · rw [leaves]
    decide
  · obtain ⟨rest, same⟩ := List.isPrefixOf_iff_prefix.mp begins
    have slash : ∀ beginning ∈ ["/register ", "/login ", "/create ", "/join "],
        beginning.toList.head? = some '/' := by decide
    rw [← same, List.head?_append, slash beginning one]
    rfl

theorem matchPm_none {line : String} (other : line.toList.head? ≠ some '@') :
    matchPm line = none := by
  unfold matchPm
  cases text : line.toList with
  | nil => rfl
  | cons c rest =>
    rw [text] at other
    have not_at : c ≠ '@' := fun same => other (by rw [same]; rfl)
    simp [pmPattern, matchAll, not_at]

theorem command_head {line : String} (command : firstToken line ∈ commands) :
    line ≠ "" ∧ line.toList.head? ≠ some '@' := by
  constructor
  · intro empty
    rw [empty] at command
    exact absurd command (by decide)
  · intro at_sign
    have head := head_of_firstToken at_sign
    generalize firstToken line = token at command head
    revert token
    decide

theorem command_kept_iff (client : Client) {line : String} (command : firstToken line ∈ commands) :
    ¬ SentPublicly client line ↔ TestsAsCommand line := by
  constructor
  · intro kept
    by_contra untested
    obtain ⟨given, other⟩ := command_head command
    apply kept
    refine ⟨line, ?_⟩
    rw [handleLine_untested client given untested, sendMessage, matchPm_none other]
  · exact command_not_public

theorem blank_stops {blanks : List Char} (blank : blanks ≠ [])
    (spaces : ∀ c ∈ blanks, isspace c = true) (rest : List Char) :
    ∀ c ∈ (blanks ++ rest).head?, (!isspace c) = false := by
  intro c head
  rw [List.head?_append_of_ne_nil blanks blank] at head
  simp [spaces c (List.mem_of_mem_head? head)]

section PrivateLine
variable {line name content : String} (h : PrivateLine line name content)
include h

theorem content_stops : ∀ c ∈ content.toList.head?, isspace c = false := by
  obtain ⟨first, begins, letter⟩ := h.written
  intro c head
  rw [begins] at head
  cases head
  exact letter

theorem name_letters : ∀ c ∈ name.toList, (!isspace c) = true := by
  simpa using h.named.2

theorem private_untested : line ≠ "" ∧ ¬ TestsAsCommand line := by
  obtain ⟨blanks, text, _⟩ := h.split
  constructor
  · intro empty
    rw [empty] at text
    exact absurd text (by simp)
  · intro tested
    have slash := head_of_test tested
    rw [text] at slash
    exact absurd slash (by simp)

theorem matchPm_private (dots : ∀ c ∈ content.toList, isDot c = true) :
    matchPm line = some (name, content) := by
  obtain ⟨blanks, text, blank, spaces⟩ := h.split
  have written : content.toList ≠ [] := by
    obtain ⟨first, begins, _⟩ := h.written
    intro empty
    rw [empty] at begins
    cases begins
  have last : matchAll [.plus isDot] content.toList = some [content.toList] := by
    have run : matchAll [.plus isDot] (content.toList ++ []) = some [content.toList] :=
      matchAll_run dots (by simp) written rfl
    rwa [List.append_nil] at run
  have middle := matchAll_run spaces (content_stops h) blank last
  have whole := matchAll_run (name_letters h) (blank_stops blank spaces content.toList)
    h.named.1 middle
  have found : matchAll pmPattern line.toList =
      some [['@'], name.toList, blanks, content.toList] := by
    rw [text]
    exact matchAll_one rfl whole
  simp [matchPm, found]

/-- Whatever the pattern matches, it takes the whole content for dots. -/
theorem dots_of_matchPm {groups : String × String} (found : matchPm line = some groups) :
    ∀ c ∈ content.toList, isDot c = true := by
  obtain ⟨blanks, text, blank, spaces⟩ := h.split
  obtain ⟨parts, taken⟩ : ∃ parts, matchAll pmPattern line.toList = some parts := by
    cases taken : matchAll pmPattern line.toList with
    | none => simp [matchPm, taken] at found
    | some parts => exact ⟨parts, rfl⟩
  obtain ⟨whole, fits⟩ := matchAll_sound taken
  simp only [pmPattern, List.forall₂_cons_left_iff, List.forall₂_nil_left_iff] at fits
  obtain ⟨_, _, ⟨_, one, _⟩, ⟨word, _, in_word, ⟨gap, _, in_gap,
    ⟨rest, _, in_rest, last, fourth⟩, third⟩, second⟩, first⟩ := fits
  subst one last fourth third second first
  simp only [text, List.flatten_cons, List.flatten_nil, List.append_nil, List.singleton_append,
    List.cons.injEq] at whole
  have tail : gap ++ rest = blanks ++ content.toList :=
    (run_unique in_word.2 (blank_stops in_gap.1 in_gap.2 rest) (name_letters h)
      (blank_stops blank spaces content.toList) whole.2).2
  have same : content.toList = rest.dropWhile isspace := by
    rw [← dropWhile_run spaces (content_stops h), ← tail,
      List.dropWhile_append_of_pos in_gap.2]
  intro c member
  rw [same] at member
  exact in_rest.2 c ((List.dropWhile_sublist _).mem member)

theorem direct_iff (client : Client) :
    handleLine client line = .sends (envelope (.privateMessageRequest ⟨name, content⟩)) ↔
      ∀ c ∈ content.toList, isDot c = true := by
  obtain ⟨given, untested⟩ := private_untested h
  rw [handleLine_untested client given untested, sendMessage]
  constructor
  · intro sent
    cases found : matchPm line with
    | none => simp [found, envelope] at sent
    | some groups => exact dots_of_matchPm h found
  · intro dots
    rw [matchPm_private h dots]

end PrivateLine

theorem kept_of_spelled (client : Client) {line : String} (spelled : WellSpelled line) :
    KeptFromRoom client line := by
  constructor
  · intro command
    exact (command_kept_iff client command).mpr (spelled.command command)
  · intro name content direct
    exact (direct_iff direct client).mpr (spelled.direct name content direct)

/-- Every line, in every room: what is not meant for the room stays away from it exactly
    when it is spelled as the tests are. -/
theorem kept_from_room_iff (client : Client) (line : String) :
    KeptFromRoom client line ↔ WellSpelled line := by
  constructor
  · intro kept
    constructor
    · intro command
      exact (command_kept_iff client command).mp (kept.command command)
    · intro name content direct
      exact (direct_iff direct client).mp (kept.direct name content direct)
  · exact kept_of_spelled client

/-- A blank before the command, and the room reads the password. -/
theorem login_shown : ¬ KeptFromRoom ⟨"hall"⟩ " /login ann secret" := by
  intro kept
  exact kept.command (by decide) ⟨" /login ann secret", by decide⟩

theorem line_of_sent {inputs : List (Client × String)} {e : Envelope}
    (sent : e ∈ handleUserInput inputs) :
    ∃ client line, (client, line) ∈ inputs ∧ handleLine client line = .sends e := by
  induction inputs with
  | nil => cases sent
  | cons input rest ih =>
    obtain ⟨client, line⟩ := input
    have later : e ∈ handleUserInput rest →
        ∃ client' line', (client', line') ∈ (client, line) :: rest ∧
          handleLine client' line' = .sends e := by
      intro sent
      obtain ⟨client', line', member, same⟩ := ih sent
      exact ⟨client', line', List.mem_cons_of_mem _ member, same⟩
    simp only [handleUserInput] at sent
    cases handled : handleLine client line with
    | quits =>
      rw [handled] at sent
      cases sent
    | sends first =>
      rw [handled] at sent
      rcases List.mem_cons.mp sent with here | there
      · exact ⟨client, line, List.mem_cons_self, by rw [handled, here]⟩
      · exact later there
    | skips =>
      rw [handled] at sent
      exact later sent
    | shows note =>
      rw [handled] at sent
      exact later sent

theorem public_lines_meant {inputs : List (Client × String)}
    (spelled : ∀ input ∈ inputs, WellSpelled input.2) {content : String}
    (sent : envelope (.publicMessage ⟨content⟩) ∈ handleUserInput inputs) :
    ∃ client line, (client, line) ∈ inputs ∧ firstToken line ∉ commands ∧
      ∀ name text, ¬ PrivateLine line name text := by
  obtain ⟨client, line, member, handled⟩ := line_of_sent sent
  have kept := kept_of_spelled client (spelled _ member)
  refine ⟨client, line, member, fun command => kept.command command ⟨content, handled⟩, ?_⟩
  intro name text direct
  have private_message := kept.direct name text direct
  rw [handled] at private_message
  simp [envelope] at private_message

end ClientLines
