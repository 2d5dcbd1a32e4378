import Toasts.Lifespan

/-!
Written time reads back. A span is written part by part, each a number and the name of its unit, and
the reader adds up whatever parts it finds. So what it comes to is the sum of the parts that were
written, which is the span again: no component is lost, none carries into the next, and no written
span is taken for a word or for a plain number.
-/

namespace Toasts

namespace Text

variable {char : Char} {number : Nat}

theorem isDigit_iff : isDigit char = true ↔ 48 ≤ char.toNat ∧ char.toNat ≤ 57 := by
  simp only [isDigit, Bool.and_eq_true, decide_eq_true_eq, Char.le_def, UInt32.le_iff_toNat_le]
  rfl

theorem isDigit_of_mem_toDigits (member : char ∈ Nat.toDigits 10 number) :
    isDigit char = true := by
  have digit := Nat.isDigit_of_mem_toDigits (by decide) (by decide) member
  rw [isDigit_iff]
  simp only [Char.isDigit, Bool.and_eq_true, decide_eq_true_eq, ge_iff_le,
    UInt32.le_iff_toNat_le] at digit
  exact digit

theorem digitsValue_eq (digits : List Char) : digitsValue digits = Nat.ofDigitChars 10 digits 0 := by
  simp [digitsValue, Nat.ofDigitChars, digitValue, Nat.mul_comm]

theorem digitsValue_toDigits (number : Nat) : digitsValue (Nat.toDigits 10 number) = number :=
  (digitsValue_eq _).trans Nat.ofDigitChars_ten_toDigits

theorem trimChars_eq {first last : Char} {middle : List Char} (begins : isBlank first = false)
    (ends : isBlank last = false) :
    trimChars (first :: (middle ++ [last])) = first :: (middle ++ [last]) := by
  simp [trimChars, begins, ends]

theorem isBlank_of_isDigit (digit : isDigit char = true) : isBlank char = false := by
  have code := isDigit_iff.mp digit
  simp [isBlank]
  omega

end Text

namespace Span

theorem isUnitLetter_iff {char : Char} : isUnitLetter char = true ↔
    (97 ≤ char.toNat ∧ char.toNat ≤ 122) ∨ (65 ≤ char.toNat ∧ char.toNat ≤ 90) ∨ char = 'µ' := by
  simp only [isUnitLetter, Bool.or_eq_true, Bool.and_eq_true, decide_eq_true_eq, beq_iff_eq,
    Char.le_def, UInt32.le_iff_toNat_le, or_assoc]
  rfl

theorem isDigit_of_isUnitLetter {char : Char} (letter : isUnitLetter char = true) :
    Text.isDigit char = false := by
  rw [← Bool.not_eq_true, Text.isDigit_iff]
  rcases isUnitLetter_iff.mp letter with small | large | rfl
  · omega
  · omega
  · decide

theorem isBlank_of_isUnitLetter {char : Char} (letter : isUnitLetter char = true) :
    Text.isBlank char = false := by
  rcases isUnitLetter_iff.mp letter with small | large | rfl
  · simp [Text.isBlank]
    omega
  · simp [Text.isBlank]
    omega
  · decide

def Measure.nanos : Measure → Nat
  | .nanosecond => 1
  | .microsecond => 1000
  | .millisecond => 1000000
  | .second => 1000000000
  | .minute => 60000000000
  | .hour => 3600000000000
  | .day => 86400000000000
  | .week => 604800000000000
  | .month => 2630016000000000
  | .year => 31557600000000000

theorem Measure.ofName?_letters {name : String} {measure : Measure}
    (named : ofName? name = some measure) :
    name.toList ≠ [] ∧ ∀ char ∈ name.toList, isUnitLetter char = true := by
  have spelled : name.toList.isEmpty = false ∧ name.toList.all isUnitLetter = true := by
    simp only [ofName?] at named
    split at named <;> cases named <;> exact ⟨rfl, rfl⟩
  exact ⟨List.isEmpty_eq_false_iff.mp spelled.1, List.all_eq_true.mp spelled.2⟩

/-- A part of a written span: a number and a name of its unit. The reader keeps numbers in 64 bits,
and units below a second in 64 bits of nanoseconds. -/
structure Part where
  count : Nat
  name : String
  measure : Measure
  named : Measure.ofName? name = some measure
  small : count < unsignedBound
  fine : measure.seconds = 0 → count * measure.nanos + nanosPerSecond ≤ unsignedBound

namespace Part

def worth (part : Part) : Nat := part.count * part.measure.nanos

def chars (part : Part) : List Char := Nat.toDigits 10 part.count ++ part.name.toList

end Part

def worth : List Part → Nat
  | [] => 0
  | part :: parts => part.worth + worth parts

theorem worth_cons (part : Part) (parts : List Part) :
    worth (part :: parts) = part.worth + worth parts := rfl

def written (parts : List Part) : List Char := [' '].intercalate (parts.map Part.chars)

def past (place : Nat) (chars : List Char) : Nat :=
  chars.foldl (fun place char => place + char.utf8Size) place

variable {total : Span} {place number : Nat} {rest : List Char}

theorem le_ofDigitChars (digits : List Char) (number : Nat) :
    number ≤ Nat.ofDigitChars 10 digits number := by
  rw [Nat.ofDigitChars_eq_ofDigitChars_zero]
  exact Nat.le_add_right_of_le (Nat.le_mul_of_pos_left _ (Nat.pow_pos (by decide)))

theorem scan_digits (digits : List Char) (every : ∀ char ∈ digits, Text.isDigit char = true)
    (small : Nat.ofDigitChars 10 digits number < unsignedBound) :
    scan (digits ++ rest) place total (.whole number) =
      scan rest (past place digits) total (.whole (Nat.ofDigitChars 10 digits number)) := by
  induction digits generalizing number place with
  | nil => rfl
  | cons digit digits ih =>
      obtain ⟨head, later⟩ := List.forall_mem_cons.mp every
      rw [Nat.ofDigitChars_cons, Nat.mul_comm] at small ⊢
      -- More digits never make a number smaller, so it has fitted all along.
      have fitted : number * 10 + Text.digitValue digit < unsignedBound :=
        Nat.lt_of_le_of_lt (le_ofDigitChars _ _) small
      refine Eq.trans ?_ (ih later small)
      simp only [List.cons_append, scan, take, head, fits, fitted, if_true]
      rfl

theorem scan_letters {amount : Amount} (letters taken : List Char)
    (every : ∀ char ∈ letters, isUnitLetter char = true) :
    scan (letters ++ rest) place total (.unit amount taken) =
      scan rest (past place letters) total (.unit amount (letters.reverse ++ taken)) := by
  induction letters generalizing taken place with
  | nil => rfl
  | cons letter letters ih =>
      obtain ⟨head, later⟩ := List.forall_mem_cons.mp every
      have undigit := isDigit_of_isUnitLetter head
      have unblank := isBlank_of_isUnitLetter head
      rw [List.reverse_cons, List.append_assoc, List.singleton_append]
      refine Eq.trans ?_ (ih (letter :: taken) later)
      simp only [List.cons_append, scan, take, head, undigit, unblank, if_true, Bool.false_eq_true,
        if_false]
      rfl

theorem scan_part {since : Nat} {started : Bool} (part : Part) :
    scan (part.chars ++ rest) place total (.seeking since started) =
      scan rest (past place part.chars) total
        (.unit { whole := part.count } part.name.toList.reverse) := by
  obtain ⟨named, letters⟩ := Measure.ofName?_letters part.named
  obtain ⟨initial, name, spelled⟩ := List.exists_cons_of_ne_nil named
  obtain ⟨digit, digits, counted⟩ :=
    List.exists_cons_of_ne_nil (Nat.toDigits_ne_nil (n := part.count) (b := 10))
  rw [spelled] at letters
  have every : ∀ char ∈ digit :: digits, Text.isDigit char = true :=
    fun char member => Text.isDigit_of_mem_toDigits (counted ▸ member)
  have value : Nat.ofDigitChars 10 digits (Text.digitValue digit) = part.count := by
    have whole := Nat.ofDigitChars_ten_toDigits (n := part.count)
    rwa [counted, Nat.ofDigitChars_cons, Nat.mul_zero, Nat.zero_add] at whole
  obtain ⟨first, later⟩ := List.forall_mem_cons.mp every
  obtain ⟨head, tail⟩ := List.forall_mem_cons.mp letters
  have split : part.chars = digit :: (digits ++ initial :: name) := by
    rw [Part.chars, counted, spelled, List.cons_append]
  calc scan (part.chars ++ rest) place total (.seeking since started)
    _ = scan (digits ++ initial :: (name ++ rest)) (place + digit.utf8Size) total
          (.whole (Text.digitValue digit)) := by
        rw [split]
        simp [scan, take, first, bind, Except.bind]
    _ = scan (initial :: (name ++ rest)) (past (place + digit.utf8Size) digits) total
          (.whole part.count) := by
        rw [scan_digits digits later (value ▸ part.small), value]
    _ = scan (name ++ rest) (past (place + digit.utf8Size) (digits ++ [initial])) total
          (.unit { whole := part.count } [initial]) := by
        simp [scan, take, head, isDigit_of_isUnitLetter head, isBlank_of_isUnitLetter head, past,
          bind, Except.bind]
    _ = scan rest (past place part.chars) total
          (.unit { whole := part.count } part.name.toList.reverse) := by
        rw [scan_letters name _ tail, split, spelled]
        simp [past]

theorem fits_eq (small : number < unsignedBound) : fits number = .ok number := if_pos small

theorem ofNanos?_eq {nanos : Nat} (bounded : nanos < spanLimit) :
    ofNanos? nanos = some ⟨nanos, bounded⟩ := dif_pos bounded

theorem ok_bind {α β ε : Type} (value : α) (next : α → Except ε β) :
    (Except.ok value >>= next) = next value := rfl

theorem add_eq {seconds nanos worth : Nat} (same : seconds * nanosPerSecond + nanos = worth)
    (small : total.subsecond + nanos < unsignedBound) (bounded : total.nanos + worth < spanLimit) :
    add total seconds nanos = .ok ⟨total.nanos + worth, bounded⟩ := by
  subst same
  have parts : total.nanos = total.seconds * nanosPerSecond + total.subsecond :=
    (Nat.div_add_mod' _ _).symm
  have limit := bounded
  rw [parts, spanLimit] at limit
  simp only [nanosPerSecond, unsignedBound] at limit parts
  unfold add
  -- What exceeds a whole second carries, and makes up the same sum on the other side.
  by_cases carries : nanosPerSecond < total.subsecond + nanos
  · have sum : total.seconds + (seconds + (total.subsecond + nanos) / nanosPerSecond) <
        unsignedBound := by
      simp only [nanosPerSecond, unsignedBound]
      omega
    have whole : (total.seconds + (seconds + (total.subsecond + nanos) / nanosPerSecond)) *
        nanosPerSecond + (total.subsecond + nanos) % nanosPerSecond =
          total.nanos + (seconds * nanosPerSecond + nanos) := by
      simp only [nanosPerSecond]
      omega
    have more := Nat.lt_of_le_of_lt (Nat.le_add_left _ _) sum
    rw [fits_eq small, ok_bind, if_pos carries, fits_eq more, ok_bind]
    dsimp only
    rw [if_pos carries, fits_eq sum, ok_bind, whole, ofNanos?_eq bounded]
  · have sum : total.seconds + seconds < unsignedBound := by
      simp only [unsignedBound]
      omega
    have whole : (total.seconds + seconds) * nanosPerSecond + (total.subsecond + nanos) =
        total.nanos + (seconds * nanosPerSecond + nanos) := by
      simp only [nanosPerSecond]
      omega
    rw [fits_eq small, ok_bind, if_neg carries, ok_bind]
    dsimp only
    rw [if_neg carries, fits_eq sum, ok_bind, whole, ofNanos?_eq bounded]

theorem Measure.nanos_cases (measure : Measure) :
    (measure.subsecondNanos? = some measure.nanos ∧ measure.seconds = 0) ∨
      (measure.subsecondNanos? = none ∧ measure.nanos = measure.seconds * nanosPerSecond) := by
  cases measure <;> decide

theorem addWhole_eq {part : Part} (bounded : total.nanos + part.worth < spanLimit) :
    addWhole total part.count part.measure = .ok ⟨total.nanos + part.worth, bounded⟩ := by
  have below : total.subsecond < nanosPerSecond := Nat.mod_lt _ (by decide)
  rcases part.measure.nanos_cases with ⟨unit, seconds⟩ | ⟨unit, seconds⟩
  · have fine := part.fine seconds
    rw [← Part.worth] at fine
    have small : part.worth < unsignedBound := by omega
    simp only [addWhole, unit]
    rw [← Part.worth, fits_eq small, ok_bind]
    exact add_eq (by simp) (by omega) bounded
  · have worth : part.count * part.measure.seconds * nanosPerSecond + 0 = part.worth := by
      rw [Part.worth, seconds, Nat.mul_assoc, Nat.add_zero]
    -- The span is within its limit, so its seconds fit 64 bits.
    have small : part.count * part.measure.seconds < unsignedBound := by
      have limit := Nat.lt_of_le_of_lt (Nat.le_add_left _ _) bounded
      rw [← worth, Nat.add_zero, spanLimit] at limit
      exact (Nat.mul_lt_mul_right (by decide : 0 < nanosPerSecond)).mp limit
    have least : total.subsecond + 0 < unsignedBound := by
      rw [Nat.add_zero]
      exact Nat.lt_trans below (by decide)
    simp only [addWhole, unit]
    rw [fits_eq small, ok_bind]
    exact add_eq worth least bounded

theorem addPart_eq {part : Part} (bounded : total.nanos + part.worth < spanLimit) :
    addPart total { whole := part.count } part.name.toList =
      .ok ⟨total.nanos + part.worth, bounded⟩ := by
  have named : part.name.toList ≠ [] := (Measure.ofName?_letters part.named).1
  simp only [addPart, named, if_false, String.ofList_toList, part.named, addWhole_eq bounded, ok_bind]

theorem written_cons (part : Part) {parts : List Part} (more : parts ≠ []) :
    written (part :: parts) = part.chars ++ ' ' :: written parts := by
  obtain ⟨next, parts, rfl⟩ := List.exists_cons_of_ne_nil more
  simp [written]

/-- The reader comes to the sum of the parts. -/
theorem scan_written {since : Nat} {started : Bool} (parts : List Part) (filled : parts ≠ [])
    (bounded : total.nanos + worth parts < spanLimit) :
    scan (written parts) place total (.seeking since started) =
      .ok ⟨total.nanos + worth parts, bounded⟩ := by
  induction parts generalizing total place since started with
  | nil => exact absurd rfl filled
  | cons part parts ih =>
      have split := worth_cons part parts
      have first : total.nanos + part.worth < spanLimit := by omega
      by_cases more : parts = []
      · subst more
        have alone : written [part] = part.chars ++ [] := by simp [written]
        rw [alone, scan_part part]
        simp only [scan, finish, List.reverse_reverse, addPart_eq first, worth, Nat.add_zero]
      · have undigit : Text.isDigit ' ' = false := by decide
        have blank : Text.isBlank ' ' = true := by decide
        have later : total.nanos + part.worth + worth parts < spanLimit := by omega
        rw [written_cons part more, scan_part part]
        simp only [scan, take, undigit, blank, Bool.false_eq_true, if_false, if_true,
          List.reverse_reverse, addPart_eq first, ok_bind]
        rw [ih more later]
        simp only [split, Nat.add_assoc]

theorem seconds_lt (span : Span) : span.seconds < unsignedBound :=
  Nat.div_lt_of_lt_mul (Nat.mul_comm _ _ ▸ span.bounded)

theorem subsecond_lt (span : Span) : span.subsecond < nanosPerSecond :=
  Nat.mod_lt _ (by decide)

namespace Part

def ofCoarse (count : Nat) (name : String) (measure : Measure)
    (named : Measure.ofName? name = some measure) (long : measure.seconds ≠ 0)
    (small : count < unsignedBound) : Part :=
  { count, name, measure, named, small, fine := fun none => absurd none long }

def ofPlural (count : Nat) (name : String) (measure : Measure)
    (one : Measure.ofName? name = some measure)
    (more : Measure.ofName? (name ++ "s") = some measure) (long : measure.seconds ≠ 0)
    (small : count < unsignedBound) : Part :=
  have named : Measure.ofName? (if count > 1 then name ++ "s" else name) = some measure := by
    split
    · exact more
    · exact one
  ofCoarse count _ measure named long small

def ofFine (count : Nat) (name : String) (measure : Measure)
    (named : Measure.ofName? name = some measure) (short : measure.nanos ≤ 1000000)
    (few : count < 1000) : Part :=
  { count, name, measure, named
    small := Nat.lt_trans few (by decide)
    fine := fun _ => Nat.le_trans (Nat.add_le_add_right
      (Nat.mul_le_mul (Nat.le_of_lt few) short) nanosPerSecond) (by decide) }

variable {count : Nat} {name : String} {measure : Measure}
  {named : Measure.ofName? name = some measure}

theorem worth_ofCoarse {long : measure.seconds ≠ 0} {small : count < unsignedBound} :
    (ofCoarse count name measure named long small).worth = count * measure.nanos := rfl

theorem worth_ofPlural {more : Measure.ofName? (name ++ "s") = some measure}
    {long : measure.seconds ≠ 0} {small : count < unsignedBound} :
    (ofPlural count name measure named more long small).worth = count * measure.nanos := rfl

theorem worth_ofFine {short : measure.nanos ≤ 1000000} {few : count < 1000} :
    (ofFine count name measure named short few).worth = count * measure.nanos := rfl

end Part

def parts (span : Span) : List Part :=
  let seconds := span.seconds
  let nanos := span.subsecond
  let inYear := seconds % 31557600
  let inMonth := inYear % 2630016
  let inDay := inMonth % 86400
  have small : seconds < unsignedBound := span.seconds_lt
  have short : nanos < 1000000000 := span.subsecond_lt
  have below {count : Nat} (less : count ≤ seconds) : count < unsignedBound :=
    Nat.lt_of_le_of_lt less small
  [.ofPlural (seconds / 31557600) "year" .year (by decide) (by decide) (by decide)
      (below (by omega)),
    .ofPlural (inYear / 2630016) "month" .month (by decide) (by decide) (by decide)
      (below (by omega)),
    .ofPlural (inMonth / 86400) "day" .day (by decide) (by decide) (by decide) (below (by omega)),
    .ofCoarse (inDay / 3600) "h" .hour (by decide) (by decide) (below (by omega)),
    .ofCoarse (inDay % 3600 / 60) "m" .minute (by decide) (by decide) (below (by omega)),
    .ofCoarse (inDay % 60) "s" .second (by decide) (by decide) (below (by omega)),
    .ofFine (nanos / 1000000) "ms" .millisecond (by decide) (by decide) (by omega),
    .ofFine (nanos / 1000 % 1000) "us" .microsecond (by decide) (by decide) (by omega),
    .ofFine (nanos % 1000) "ns" .nanosecond (by decide) (by decide) (by omega)]

theorem components_eq (span : Span) :
    span.components = span.parts.map fun part => (part.count, part.name) := rfl

theorem worth_parts (span : Span) : worth span.parts = span.nanos := by
  have whole : span.nanos = span.seconds * 1000000000 + span.subsecond :=
    (Nat.div_add_mod' _ _).symm
  have none : worth [] = 0 := rfl
  rw [whole]
  simp only [parts, worth_cons, none, Part.worth_ofPlural, Part.worth_ofCoarse, Part.worth_ofFine,
    Measure.nanos]
  generalize span.seconds = seconds
  generalize span.subsecond = nanos
  omega

theorem worth_filter (parts : List Part) : worth (parts.filter (·.count ≠ 0)) = worth parts := by
  induction parts with
  | nil => rfl
  | cons part parts ih =>
      by_cases none : part.count = 0
      · have nothing : part.worth = 0 := by rw [Part.worth, none, Nat.zero_mul]
        rw [worth_cons, nothing, Nat.zero_add, ← ih]
        simp [none]
      · rw [worth_cons, ← ih, ← worth_cons]
        simp [none]

theorem Part.toList_text (part : Part) :
    (s!"{part.count}{part.name}").toList = part.chars := by
  simp [Part.chars, toString, Nat.toList_repr]

theorem toList_render {span : Span} (lasting : span.isZero = false) :
    span.render.toList = written (span.parts.filter (·.count ≠ 0)) := by
  rw [render, lasting, if_neg Bool.false_ne_true, String.toList_intercalate, components_eq, written,
    List.filter_map, List.map_map, List.map_map]
  congr 1
  exact List.map_congr_left fun part _ => part.toList_text

theorem written_ends (parts : List Part) (filled : parts ≠ []) :
    ∃ digit middle letter, written parts = digit :: (middle ++ [letter]) ∧
      Text.isDigit digit = true ∧ isUnitLetter letter = true := by
  induction parts with
  | nil => exact absurd rfl filled
  | cons part parts ih =>
      obtain ⟨digit, digits, counted⟩ :=
        List.exists_cons_of_ne_nil (Nat.toDigits_ne_nil (n := part.count) (b := 10))
      have among : digit ∈ Nat.toDigits 10 part.count := by simp [counted]
      have first : Text.isDigit digit = true := Text.isDigit_of_mem_toDigits among
      by_cases more : parts = []
      · obtain ⟨named, letters⟩ := Measure.ofName?_letters part.named
        refine ⟨digit, digits ++ part.name.toList.dropLast, part.name.toList.getLast named, ?_,
          first, letters _ (List.getLast_mem named)⟩
        rw [List.append_assoc, List.dropLast_concat_getLast]
        simp [more, written, Part.chars, counted]
      · obtain ⟨next, middle, letter, rest, -, last⟩ := ih more
        refine ⟨digit, digits ++ part.name.toList ++ ' ' :: next :: middle, letter, ?_, first, last⟩
        rw [written_cons part more, rest, Part.chars, counted]
        simp

theorem filled_parts {span : Span} (lasting : span.isZero = false) :
    span.parts.filter (·.count ≠ 0) ≠ [] := by
  intro none
  have whole : span.nanos = 0 := by rw [← worth_parts, ← worth_filter, none]; rfl
  simp [isZero, whole] at lasting

theorem render_ends (span : Span) : ∃ digit middle letter,
    span.render.toList = digit :: (middle ++ [letter]) ∧
      Text.isDigit digit = true ∧ isUnitLetter letter = true := by
  cases lasting : span.isZero with
  | true => exact ⟨'0', [], 's', by simp [render, lasting], by decide, by decide⟩
  | false =>
      rw [toList_render lasting]
      exact written_ends _ (filled_parts lasting)

/-- A written span reads back as the span it was written for. -/
theorem parse_render (span : Span) : parse span.render = .ok span := by
  cases lasting : span.isZero with
  | true =>
      obtain rfl := (isZero_iff span).mp lasting
      rfl
  | false =>
      have whole : worth (span.parts.filter (·.count ≠ 0)) = span.nanos := by
        rw [worth_filter, worth_parts]
      have bounded : zero.nanos + worth (span.parts.filter (·.count ≠ 0)) < spanLimit := by
        rw [whole, zero, Nat.zero_add]
        exact span.bounded
      have unplain : span.render ≠ "0" := by
        obtain ⟨digit, middle, letter, ends, -, -⟩ := span.render_ends
        intro plain
        have long := congrArg List.length ends
        simp [plain] at long
      rw [parse, if_neg unplain, toList_render lasting, scan_written _ (filled_parts lasting) bounded]
      congr 2
      rw [whole, zero, Nat.zero_add]

end Span

namespace Text

variable {text : String} {first last : Char} {middle : List Char}

theorem trim_eq (spelled : text.toList = first :: (middle ++ [last]))
    (begins : isBlank first = false) (ends : isBlank last = false) : trim text = text := by
  rw [trim, spelled, trimChars_eq begins ends, ← spelled, String.ofList_toList]

theorem readInt64_eq_none (spelled : text.toList = first :: (middle ++ [last]))
    (begins : isDigit first = true) (ends : isDigit last = false) : readInt64 text = none := by
  have code := isDigit_iff.mp begins
  have unsigned : first ≠ '-' ∧ first ≠ '+' := by
    constructor <;> rintro rfl <;> revert code <;> decide
  have mixed : (first :: (middle ++ [last])).all isDigit = false := by simp [ends]
  rw [readInt64, spelled]
  simp [unsigned, ends]

end Text

namespace Lifespan

theorem not_persistentWord {text : String} {first : Char} {rest : List Char}
    (spelled : text.toList = first :: rest) (begins : Text.isDigit first = true) :
    persistentWords.contains (Text.lower text) = false := by
  have uncapital : ¬(65 ≤ first.val) := by
    rw [UInt32.le_iff_toNat_le]
    exact Nat.not_le.mpr (Nat.lt_of_le_of_lt (Text.isDigit_iff.mp begins).2 (by decide))
  have kept : first.toLower = first := dif_neg fun capital => uncapital capital.1
  have initial : (Text.lower text).toList.head? = some first := by
    simp [Text.lower, spelled, kept]
  have letters : persistentWords.all (fun word => word.toList.head?.all (!Text.isDigit ·)) = true :=
    rfl
  rw [← Bool.not_eq_true, List.contains_iff_mem]
  intro word
  have undigit := List.all_eq_true.mp letters _ word
  rw [initial, Option.all_some, begins] at undigit
  cases undigit

/-- A written lifespan reads back: as the same span where it counts down, and as persistent where it
does not. -/
theorem parse_render (lifespan : Lifespan) :
    parse lifespan.render = .ok (lifespan.countdown.elim .persistent .finite) := by
  cases counts : lifespan.countdown with
  | none =>
      rw [render, counts]
      rfl
  | some span =>
      obtain ⟨digit, middle, letter, spelled, begins, ends⟩ := span.render_ends
      have whole : Text.trim span.render = span.render :=
        Text.trim_eq spelled (Text.isBlank_of_isDigit begins) (Span.isBlank_of_isUnitLetter ends)
      rw [render, counts]
      simp only [parse, whole, not_persistentWord spelled begins, Bool.false_eq_true, if_false,
        Text.readInt64_eq_none spelled begins (Span.isDigit_of_isUnitLetter ends),
        Span.parse_render, Option.elim]

/-- Every lifespan survives its own text: the text reads without a fault, and what is read counts
down for exactly as long, or not at all. -/
theorem countdown_of_parse_render (lifespan : Lifespan) : ∃ read,
    parse lifespan.render = .ok read ∧ read.countdown = lifespan.countdown := by
  refine ⟨_, lifespan.parse_render, ?_⟩
  cases lifespan with
  | persistent => rfl
  | finite span => cases none : span.isZero <;> simp [countdown, none]

end Lifespan

end Toasts
