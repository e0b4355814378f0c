import Mathlib.Data.List.DropRight
import TypedMessages.Format.Pattern
import TypedMessages.Proofs.Format.SpecifierForm

/-!
# The grammar of placeholders

What may be written between the braces of a placeholder, and what it means: an argument number, behind a comma the name of a type, and behind a second comma a style, each with blanks around it or without. The number may be left out, and so may the rest from either comma on.

A placeholder ends at the brace that balances the one that it begins with. Only braces count on the way there; a text that closes no brace before its time and leaves none open is all that can stand between the two.
-/

namespace TypedMessages

/-! ### Balance -/

/-- A text that closes all braces that it opens, and so many more as were open before it, but never one that is not open. -/
structure Closes (depth : Nat) (text : List Char) : Prop where
  all : text.count '}' = text.count '{' + depth
  opened : ∀ front, front <+: text → front.count '}' ≤ front.count '{' + depth

theorem closes_nil_iff {depth : Nat} : Closes depth [] ↔ depth = 0 := by
  constructor
  · intro h
    simpa using h.all.symm
  · rintro rfl
    exact ⟨rfl, fun front hfront => by rw [List.prefix_nil.1 hfront]; rfl⟩

/-- What a character in front asks of the text behind it is that it closes the braces that are open then. -/
theorem closes_cons_iff {depth : Nat} {c : Char} {text : List Char} (hc : c ≠ '}') :
    Closes depth (c :: text) ↔ Closes (if c = '{' then depth + 1 else depth) text := by
  have hcount (front : List Char) : (c :: front).count '}' = front.count '}' ∧
      (c :: front).count '{' + depth = front.count '{' + if c = '{' then depth + 1 else depth := by
    rw [List.count_cons_of_ne hc, List.count_cons]
    by_cases hopening : c = '{'
    · simp only [hopening, beq_self_eq_true, if_true, true_and]
      omega
    · simp only [beq_iff_eq, hopening, if_false, Nat.add_zero, and_self]
  obtain ⟨hclosing, hopening⟩ := hcount text
  constructor
  · intro h
    refine ⟨by rw [← hclosing, ← hopening, h.all], fun front hfront => ?_⟩
    have hlonger : c :: front <+: c :: text := (List.prefix_cons_inj c).2 hfront
    obtain ⟨hclosing, hopening⟩ := hcount front
    rw [← hclosing, ← hopening]
    exact h.opened _ hlonger
  · intro h
    refine ⟨by rw [hclosing, hopening, h.all], fun front hfront => ?_⟩
    rcases List.prefix_cons_iff.1 hfront with rfl | ⟨left, rfl, hleft⟩
    · exact Nat.zero_le _
    · obtain ⟨hclosing, hopening⟩ := hcount left
      rw [hclosing, hopening]
      exact h.opened left hleft

theorem closes_closing_iff {depth : Nat} {text : List Char} :
    Closes (depth + 1) ('}' :: text) ↔ Closes depth text := by
  have hcount (front : List Char) :
      ('}' :: front).count '}' = front.count '}' + 1 ∧ ('}' :: front).count '{' = front.count '{' :=
    ⟨List.count_cons_self, List.count_cons_of_ne (by decide)⟩
  constructor
  · intro h
    refine ⟨?_, fun front hfront => ?_⟩
    · have := h.all
      rw [(hcount text).1, (hcount text).2] at this
      omega
    · have := h.opened _ ((List.prefix_cons_inj '}').2 hfront)
      rw [(hcount front).1, (hcount front).2] at this
      omega
  · intro h
    refine ⟨?_, fun front hfront => ?_⟩
    · have := h.all
      rw [(hcount text).1, (hcount text).2]
      omega
    · rcases List.prefix_cons_iff.1 hfront with rfl | ⟨left, rfl, hleft⟩
      · exact Nat.zero_le _
      · have := h.opened left hleft
        rw [(hcount left).1, (hcount left).2]
        omega

theorem not_closes_zero_closing {text : List Char} : ¬ Closes 0 ('}' :: text) := by
  intro h
  have := h.opened ['}'] (by simp)
  exact absurd this (by decide)

theorem splitAtClosing_eq_some_iff {depth : Nat} {text body rest : List Char} :
    splitAtClosing depth text = some (body, rest) ↔ text = body ++ '}' :: rest ∧ Closes depth body := by
  induction text generalizing depth body with
  | nil => simp [splitAtClosing]
  | cons c text ih =>
    by_cases hc : c = '}'
    · subst hc
      cases depth with
      | zero =>
        constructor
        · rintro ⟨⟩
          exact ⟨rfl, closes_nil_iff.2 rfl⟩
        · rintro ⟨htext, hcloses⟩
          cases body with
          | nil => cases htext; rfl
          | cons first body =>
            cases htext
            exact absurd hcloses not_closes_zero_closing
      | succ depth =>
        rw [splitAtClosing, Option.map_eq_some_iff]
        constructor
        · rintro ⟨⟨inner, left⟩, hsplit, ⟨⟩⟩
          obtain ⟨rfl, hcloses⟩ := ih.1 hsplit
          exact ⟨rfl, closes_closing_iff.2 hcloses⟩
        · rintro ⟨htext, hcloses⟩
          cases body with
          | nil => exact absurd (closes_nil_iff.1 hcloses) (Nat.succ_ne_zero depth)
          | cons first body =>
            cases htext
            have hinner := closes_closing_iff.1 hcloses
            exact ⟨(body, rest), ih.2 ⟨rfl, hinner⟩, rfl⟩
    · rw [splitAtClosing.eq_4 depth _ _ hc, Option.map_eq_some_iff]
      constructor
      · rintro ⟨⟨inner, left⟩, hsplit, ⟨⟩⟩
        obtain ⟨rfl, hcloses⟩ := ih.1 hsplit
        exact ⟨rfl, (closes_cons_iff hc).2 hcloses⟩
      · rintro ⟨htext, hcloses⟩
        cases body with
        | nil =>
          cases htext
          exact absurd rfl hc
        | cons first body =>
          cases htext
          have hbehind := (closes_cons_iff hc).1 hcloses
          exact ⟨(body, rest), ih.2 ⟨rfl, hbehind⟩, rfl⟩

/-! ### Blanks -/

/-- A segment with blanks around a text, and that text, which neither begins nor ends with a blank. -/
inductive Trimmed : List Char → List Char → Prop
  | intro {before text after : List Char} (blankBefore : ∀ c ∈ before, isBlank c = true)
      (first : ∀ c ∈ text.head?, isBlank c = false) (last : ∀ c ∈ text.getLast?, isBlank c = false)
      (blankAfter : ∀ c ∈ after, isBlank c = true) : Trimmed (before ++ (text ++ after)) text

theorem dropWhile_of_head {p : Char → Bool} {text : List Char} (h : ∀ c ∈ text.head?, p c = false) :
    text.dropWhile p = text := by
  cases text with
  | nil => rfl
  | cons c text => exact List.dropWhile_cons_of_neg (by rw [h c rfl]; exact Bool.false_ne_true)

theorem rdropWhile_append_of_blank {p : Char → Bool} {text after : List Char} (hafter : ∀ c ∈ after, p c = true)
    (hlast : ∀ c ∈ text.getLast?, p c = false) : (text ++ after).rdropWhile p = text := by
  have hreverse : ∀ c ∈ after.reverse, p c = true := fun c hc => hafter c (List.mem_reverse.1 hc)
  rw [List.rdropWhile, List.reverse_append, List.dropWhile_append_of_pos hreverse, dropWhile_of_head,
    List.reverse_reverse]
  rwa [List.head?_reverse]

theorem trimmed_trimBlanks (segment : List Char) : Trimmed segment (trimBlanks segment) := by
  have hsegment : segment.takeWhile isBlank ++
      (trimBlanks segment ++ (segment.dropWhile isBlank).rtakeWhile isBlank) = segment := by
    show _ ++ ((segment.dropWhile isBlank).rdropWhile isBlank ++ _) = segment
    rw [List.rdropWhile_append_rtakeWhile, List.takeWhile_append_dropWhile]
  have hfirst : ∀ c ∈ (trimBlanks segment).head?, isBlank c = false := by
    intro c hc
    obtain ⟨rest, hrest⟩ : trimBlanks segment <+: segment.dropWhile isBlank := List.rdropWhile_prefix isBlank _
    have hnot := List.head?_dropWhile_not isBlank segment
    rwa [← hrest, List.head?_append, hc] at hnot
  have hlast : ∀ c ∈ (trimBlanks segment).getLast?, isBlank c = false := by
    intro c hc
    have hnonempty : trimBlanks segment ≠ [] := by
      intro hnil
      rw [hnil] at hc
      cases hc
    have hnot := List.rdropWhile_last_not isBlank (segment.dropWhile isBlank) hnonempty
    rw [List.getLast?_eq_some_getLast hnonempty] at hc
    cases hc
    exact Bool.eq_false_of_not_eq_true hnot
  have hbefore : ∀ c ∈ segment.takeWhile isBlank, isBlank c = true := fun _ hc => List.mem_takeWhile_imp hc
  have hafter : ∀ c ∈ (segment.dropWhile isBlank).rtakeWhile isBlank, isBlank c = true :=
    fun _ hc => List.mem_rtakeWhile_imp hc
  have htrimmed := Trimmed.intro hbefore hfirst hlast hafter
  rwa [hsegment] at htrimmed

theorem trimmed_iff {segment text : List Char} : Trimmed segment text ↔ trimBlanks segment = text := by
  constructor
  · rintro ⟨hbefore, hfirst, hlast, hafter⟩
    show ((_ ++ (text ++ _)).dropWhile isBlank).rdropWhile isBlank = text
    rw [List.dropWhile_append_of_pos hbefore]
    cases text with
    | nil =>
      rw [List.nil_append, List.dropWhile_eq_nil_iff.2 hafter]
      rfl
    | cons c text =>
      rw [dropWhile_of_head (by simpa using hfirst), rdropWhile_append_of_blank hafter hlast]
  · rintro rfl
    exact trimmed_trimBlanks segment

/-! ### Numbers, types and styles -/

/-- The texts of an argument number: a numeral, after a plus sign or not, or nothing at all for the first argument. -/
inductive SpellsIndex : List Char → Nat → Prop
  | missing : SpellsIndex [] 0
  | plain (numeral : Numeral) : SpellsIndex numeral.digits numeral.value
  | signed (numeral : Numeral) : SpellsIndex ('+' :: numeral.digits) numeral.value

/-- The name of a type, in lower case. -/
def PlaceholderType.word : PlaceholderType → String
  | number => "number"
  | date => "date"
  | time => "time"
  | choice => "choice"

def SpellsType (text : List Char) (type : PlaceholderType) : Prop :=
  text.map Char.toLower = type.word.toList

/-- The style that a text is, unless there is none. -/
def styleOf (text : List Char) : Option String :=
  if text = [] then none else some (String.ofList text)

theorem numeralBelow_digits_iff {digits : List Char} {value : Nat} :
    (if digits.isEmpty || !digits.all Char.isDigit then none else numeralBelow countLimit digits) = some value ↔
      ∃ numeral : Numeral, numeral.digits = digits ∧ numeral.value = value := by
  constructor
  · intro h
    split at h
    · cases h
    · next hproper =>
      simp only [Bool.or_eq_true, List.isEmpty_iff, Bool.not_eq_true', Bool.not_eq_false, not_or,
        List.all_eq_true] at hproper
      exact exists_numeral hproper.1 hproper.2 h
  · rintro ⟨numeral, rfl, rfl⟩
    have hdecimal : numeral.digits.all Char.isDigit = true := List.all_eq_true.2 numeral.decimal
    rw [if_neg (by simp [numeral.nonempty, hdecimal]), numeral.numeralBelow_digits]

theorem Placeholder.readIndex_eq_some_iff {text : List Char} {index : Nat} :
    Placeholder.readIndex text = some index ↔ SpellsIndex text index := by
  cases text with
  | nil =>
    constructor
    · rintro ⟨⟩
      exact .missing
    · intro h
      generalize htext : [] = text at h
      cases h with
      | missing => rfl
      | plain numeral => exact absurd htext.symm numeral.nonempty
      | signed numeral => cases htext
  | cons c rest =>
    refine numeralBelow_digits_iff.trans ?_
    by_cases hplus : c = '+'
    · rw [if_pos hplus, hplus]
      constructor
      · rintro ⟨numeral, rfl, rfl⟩
        exact .signed numeral
      · intro h
        generalize htext : '+' :: rest = text at h
        cases h with
        | missing => cases htext
        | plain numeral =>
          have hdigit := numeral.decimal '+' (htext ▸ List.mem_cons_self)
          exact absurd hdigit (by decide)
        | signed numeral =>
          cases htext
          exact ⟨numeral, rfl, rfl⟩
    · rw [if_neg hplus]
      constructor
      · rintro ⟨numeral, hdigits, rfl⟩
        rw [← hdigits]
        exact .plain numeral
      · intro h
        generalize htext : c :: rest = text at h
        cases h with
        | missing => cases htext
        | plain numeral => exact ⟨numeral, htext.symm ▸ rfl, rfl⟩
        | signed numeral =>
          cases htext
          exact absurd rfl hplus

theorem PlaceholderType.ofName?_eq_some_iff {text : List Char} {type : PlaceholderType} :
    PlaceholderType.ofName? (String.ofList text) = some type ↔ SpellsType text type := by
  have hlower : (String.ofList text).toLower = type.word ↔ SpellsType text type := by
    have hmap : (String.ofList text).toLower = (String.ofList text).map Char.toLower := rfl
    rw [hmap, ← String.toList_inj, String.toList_map, String.toList_ofList]
    rfl
  rw [← hlower, PlaceholderType.ofName?]
  constructor
  · intro h
    split at h <;> cases h <;> assumption
  · intro h
    rw [h]
    cases type <;> rfl

namespace Placeholder

theorem readType_eq_ok_iff {segment : List Char} {type : Option PlaceholderType} :
    readType (some segment) = .ok type ↔
      ∃ found, SpellsType (trimBlanks segment) found ∧ type = some found := by
  unfold readType
  simp only [← PlaceholderType.ofName?_eq_some_iff]
  cases PlaceholderType.ofName? (String.ofList (trimBlanks segment)) with
  | none => simp
  | some found => simp [eq_comm]

theorem readStyle_some (segment : List Char) : readStyle (some segment) = styleOf (trimBlanks segment) := by
  unfold readStyle styleOf
  rw [Option.map_some]
  cases trimBlanks segment <;> rfl

/-! ### Bodies -/

theorem segments_of_not_mem (count : Nat) {text : List Char} (htext : ',' ∉ text) : segments count text = [text] := by
  cases count with
  | zero => rfl
  | succ count =>
    have hnone : text.dropWhile (· != ',') = [] := by
      refine List.dropWhile_eq_nil_iff.2 fun c hc => ?_
      rw [bne_iff_ne]
      rintro rfl
      exact htext hc
    rw [segments, hnone]

theorem segments_append (count : Nat) {first : List Char} (hfirst : ',' ∉ first) (rest : List Char) :
    segments (count + 1) (first ++ ',' :: rest) = first :: segments count rest := by
  have hall : ∀ c ∈ first, (c != ',') = true := by
    intro c hc
    rw [bne_iff_ne]
    rintro rfl
    exact hfirst hc
  rw [segments, List.dropWhile_append_of_pos hall, List.takeWhile_append_of_pos hall]
  simp

/-- What stands between the braces of a placeholder, and what it means. -/
inductive Spells : List Char → Placeholder → Prop
  | index {first number : List Char} {index : Nat} (alone : ',' ∉ first) (counts : Trimmed first number)
      (spelled : SpellsIndex number index) : Spells first ⟨index, none, none⟩
  | typed {first number second name : List Char} {index : Nat} {type : PlaceholderType} (cut : ',' ∉ first)
      (counts : Trimmed first number) (spelled : SpellsIndex number index) (alone : ',' ∉ second)
      (names : Trimmed second name) (known : SpellsType name type) :
      Spells (first ++ ',' :: second) ⟨index, some type, none⟩
  | styled {first number second name third style : List Char} {index : Nat} {type : PlaceholderType}
      (cut : ',' ∉ first) (counts : Trimmed first number) (spelled : SpellsIndex number index) (cutAgain : ',' ∉ second)
      (names : Trimmed second name) (known : SpellsType name type) (shows : Trimmed third style) :
      Spells (first ++ ',' :: (second ++ ',' :: third)) ⟨index, some type, styleOf style⟩

theorem read_eq_ok_iff_segments {body : List Char} {placeholder : Placeholder} {segments : List (List Char)}
    (hsegments : Placeholder.segments 2 body = segments) :
    read body = .ok placeholder ↔
      ∃ index type, SpellsIndex (trimBlanks (segments.headD [])) index ∧ readType segments[1]? = .ok type ∧
        ⟨index, type, readStyle segments[2]?⟩ = placeholder := by
  simp only [read, hsegments, ← readIndex_eq_some_iff]
  cases readIndex (trimBlanks (segments.headD [])) with
  | none => simp
  | some index =>
    simp only [bind_eq_ok_iff]
    constructor
    · rintro ⟨type, htype, ⟨⟩⟩
      exact ⟨index, type, rfl, htype, rfl⟩
    · rintro ⟨_, type, ⟨⟩, htype, rfl⟩
      exact ⟨type, htype, rfl⟩

theorem read_eq_ok_iff {body : List Char} {placeholder : Placeholder} :
    read body = .ok placeholder ↔ Spells body placeholder := by
  constructor
  · intro h
    by_cases hcomma : ',' ∈ body
    · obtain ⟨first, behind, rfl, hfirst⟩ := List.eq_append_cons_of_mem hcomma
      by_cases hagain : ',' ∈ behind
      · obtain ⟨second, third, rfl, hsecond⟩ := List.eq_append_cons_of_mem hagain
        have hsegments := segments_append 1 hfirst (second ++ ',' :: third)
        rw [segments_append 0 hsecond] at hsegments
        obtain ⟨index, type, hindex, htype, rfl⟩ := (read_eq_ok_iff_segments hsegments).1 h
        obtain ⟨found, hfound, rfl⟩ := readType_eq_ok_iff.1 htype
        have hstyle : readStyle (first :: second :: segments 0 third)[2]? = styleOf (trimBlanks third) := readStyle_some third
        rw [hstyle]
        exact .styled hfirst (trimmed_trimBlanks first) hindex hsecond (trimmed_trimBlanks second) hfound
          (trimmed_trimBlanks third)
      · have hsegments := segments_append 1 hfirst behind
        rw [segments_of_not_mem 1 hagain] at hsegments
        obtain ⟨index, type, hindex, htype, rfl⟩ := (read_eq_ok_iff_segments hsegments).1 h
        obtain ⟨found, hfound, rfl⟩ := readType_eq_ok_iff.1 htype
        exact .typed hfirst (trimmed_trimBlanks first) hindex hagain (trimmed_trimBlanks behind) hfound
    · have hsegments := segments_of_not_mem 2 hcomma
      obtain ⟨index, type, hindex, htype, rfl⟩ := (read_eq_ok_iff_segments hsegments).1 h
      cases htype
      exact .index hcomma (trimmed_trimBlanks body) hindex
  · intro h
    cases h with
    | index alone counts spelled =>
      obtain rfl := trimmed_iff.1 counts
      exact (read_eq_ok_iff_segments (segments_of_not_mem 2 alone)).2 ⟨_, none, spelled, rfl, rfl⟩
    | @typed first _ second _ index type cut counts spelled alone names known =>
      obtain rfl := trimmed_iff.1 counts
      obtain rfl := trimmed_iff.1 names
      have hsegments := segments_append 1 cut second
      rw [segments_of_not_mem 1 alone] at hsegments
      have htype := readType_eq_ok_iff.2 ⟨type, known, rfl⟩
      exact (read_eq_ok_iff_segments hsegments).2 ⟨index, some type, spelled, htype, rfl⟩
    | @styled first _ second _ third _ index type cut counts spelled cutAgain names known shows =>
      obtain rfl := trimmed_iff.1 counts
      obtain rfl := trimmed_iff.1 names
      obtain rfl := trimmed_iff.1 shows
      have hsegments := segments_append 1 cut (second ++ ',' :: third)
      rw [segments_append 0 cutAgain] at hsegments
      have htype := readType_eq_ok_iff.2 ⟨type, known, rfl⟩
      have hstyle := congrArg (Placeholder.mk index (some type)) (readStyle_some third)
      exact (read_eq_ok_iff_segments hsegments).2 ⟨index, some type, spelled, htype, hstyle⟩

end Placeholder

end TypedMessages
