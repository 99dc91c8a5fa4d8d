import GuestHost.Level

/-!
# Lines that carry a level

A tag is taken off whatever message stands behind it (`parseLine_tag_append`).  The parser cuts
at the first `"] "`, and no level's word has a bracket in it, so the tag's own end is found
however many brackets the message has.

Nor is anything else taken for a tag.  The two sides of a cut make up the line again, and the
word in front of it is looked up as a whole, so a line with a level starts with that level's tag
(`parseLine_eq_some_iff`).
-/

namespace GuestHost.Level

/-! ## Tagged lines are read -/

/-- The cut is made at the first bracket with a blank behind it. -/
theorem splitAtBracket_append {word : List Char} (hword : ']' ∉ word) (message : List Char) :
    splitAtBracket (word ++ ']' :: ' ' :: message) = some (word, message) := by
  induction word with
  | nil => rfl
  | cons c rest ih =>
      rw [List.mem_cons, not_or] at hword
      have hrest := ih hword.2
      simp [splitAtBracket, Ne.symm hword.1, hrest]

/-- A level is found by its word. -/
theorem find?_name (level : Level) :
    all.find? (fun other => other.name.toList == level.name.toList) = some level := by
  cases level <;> decide

theorem toList_tag_append (level : Level) (message : String) :
    (level.tag ++ message).toList =
      '[' :: (level.name.toList ++ ']' :: ' ' :: message.toList) := by
  simp [tag]

theorem parseLine_tag_append (level : Level) (message : String) :
    parseLine (level.tag ++ message) = some (level, message) := by
  have hword : ']' ∉ level.name.toList := by
    cases level <;> decide
  rw [parseLine, toList_tag_append]
  simp only [splitAtBracket_append hword, find?_name, Option.map_some, String.ofList_toList]

/-! ## Only tagged lines are read -/

/-- What a cut leaves on its two sides makes up the line again. -/
theorem eq_append_of_splitAtBracket {line word message : List Char}
    (hcut : splitAtBracket line = some (word, message)) :
    line = word ++ ']' :: ' ' :: message := by
  fun_induction splitAtBracket line generalizing word with
  | case1 => cases hcut
  | case2 behind =>
      cases hcut
      rfl
  | case3 c rest hother ih =>
      obtain ⟨⟨front, behind⟩, hrest, heq⟩ := Option.map_eq_some_iff.mp hcut
      cases heq
      rw [ih hrest]
      rfl

/-- A level that was found by a word has that word for its name. -/
theorem name_of_find? {word : List Char} {level : Level}
    (hfound : all.find? (fun other => other.name.toList == word) = some level) :
    level.name.toList = word := by
  have hname := List.find?_some hfound
  exact beq_iff_eq.mp hname

theorem eq_of_parseLine {line message : String} {level : Level}
    (hparsed : parseLine line = some (level, message)) : line = level.tag ++ message := by
  unfold parseLine at hparsed
  split at hparsed
  · next rest hline =>
    split at hparsed
    · cases hparsed
    · next word behind hcut =>
      obtain ⟨found, hfound, heq⟩ := Option.map_eq_some_iff.mp hparsed
      cases heq
      apply String.toList_inj.mp
      rw [toList_tag_append, hline, eq_append_of_splitAtBracket hcut, name_of_find? hfound,
        String.toList_ofList]
  · cases hparsed

theorem parseLine_eq_some_iff {line message : String} {level : Level} :
    parseLine line = some (level, message) ↔ line = level.tag ++ message := by
  constructor
  · exact eq_of_parseLine
  · rintro rfl
    exact parseLine_tag_append level message

/-- A line that starts with a tag is that tag and some message. -/
theorem exists_message_iff {line : String} {level : Level} :
    (∃ message, line = level.tag ++ message) ↔ level.tag.toList <+: line.toList := by
  constructor
  · rintro ⟨message, rfl⟩
    rw [String.toList_append]
    exact List.prefix_append _ _
  · rintro ⟨rest, hline⟩
    refine ⟨String.ofList rest, ?_⟩
    apply String.toList_inj.mp
    rw [String.toList_append, String.toList_ofList, hline]

theorem parseLine_eq_none_iff {line : String} :
    parseLine line = none ↔ ∀ level : Level, ¬ level.tag.toList <+: line.toList := by
  rw [Option.eq_none_iff_forall_ne_some]
  simp only [Prod.forall, Ne, parseLine_eq_some_iff, ← exists_message_iff, not_exists]

/-- A line has a level and a message exactly if it is the tag of that level with that message
behind it.  So the lines without a level are those that start with no tag, and a line is a tag
and a message in at most one way, whatever brackets stand in the message. -/
theorem levels_are_read_off_tags (line : String) :
    (∀ level message, parseLine line = some (level, message) ↔ line = level.tag ++ message) ∧
    (parseLine line = none ↔ ∀ level : Level, ¬ level.tag.toList <+: line.toList) ∧
    (∀ (level other : Level) message rest, line = level.tag ++ message →
      line = other.tag ++ rest → other = level ∧ rest = message) := by
  refine ⟨fun level message => parseLine_eq_some_iff, parseLine_eq_none_iff, ?_⟩
  intro level other message rest hline hother
  have hfirst := parseLine_eq_some_iff.mpr hline
  have hsecond := parseLine_eq_some_iff.mpr hother
  rw [hfirst] at hsecond
  cases hsecond
  exact ⟨rfl, rfl⟩

/-- A message with a bracket and a whole tag in it is taken as it is. -/
theorem tag_in_a_message_is_no_tag :
    let line := "[WARN] a] [INFO] b"
    parseLine line = some (.warn, "a] [INFO] b") ∧
      ∀ (level : Level) message, line = level.tag ++ message →
        level = .warn ∧ message = "a] [INFO] b" := by
  intro line
  obtain ⟨hread, -, honce⟩ := levels_are_read_off_tags line
  have hline : line = Level.warn.tag ++ "a] [INFO] b" := by decide +kernel
  exact ⟨(hread _ _).mpr hline, fun level message => honce _ level _ message hline⟩

end GuestHost.Level
