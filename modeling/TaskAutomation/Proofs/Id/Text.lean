import TaskAutomation.Id.Codec
import Mathlib.Algebra.GroupWithZero.Nat
import Mathlib.Order.Basic

/-!
This file proves that the text of an identifier stands for it. The digits of base 32 read back as
the value they were written from, in capital or small letters, so reading a text gives the
identifier again; the name of a kind has a hyphen, which is no digit, so nothing is cut off in front
of a text without the name. The digits also keep the order: of two identifiers the smaller one has
the smaller text, because the alphabet is ascending and all texts have the same length.
-/

namespace TaskAutomation

namespace Ulid

/-! ### Single digits -/

theorem digitValue?_alphabet :
    ∀ digit < 32, digitValue? (alphabet.getD digit '0') = some digit := by decide

theorem alphabet_ascending :
    ∀ more < 32, ∀ less < more, alphabet.getD less '0' < alphabet.getD more '0' := by decide

theorem utf8Size_alphabet : ∀ digit < 32, (alphabet.getD digit '0').utf8Size = 1 := by decide

theorem toUpper_alphabet :
    ∀ digit < 32, (alphabet.getD digit '0').toUpper = alphabet.getD digit '0' := by decide

theorem hyphen_ne_alphabet : ∀ digit < 32, '-' ≠ alphabet.getD digit '0' := by decide

/-- A letter that is a digit when it is capital takes one byte. -/
theorem utf8Size_of_toUpper {c : Char} {digit : Nat} (fits : digit < 32)
    (same : c.toUpper = alphabet.getD digit '0') : c.utf8Size = 1 := by
  unfold Char.toUpper at same
  split at same
  · next small =>
    have last : 'z'.val ≤ 127 := by decide
    exact Char.utf8Size_eq_one_iff.mpr (UInt32.le_trans small.2 last)
  · rw [same]
    exact utf8Size_alphabet digit fits

/-! ### Digits and their value -/

theorem digits_succ (length n : Nat) :
    digits (length + 1) n = digits length (n / 32) ++ [alphabet.getD (n % 32) '0'] := rfl

theorem length_digits (length n : Nat) : (digits length n).length = length := by
  induction length generalizing n with
  | zero => rfl
  | succ length inductionHypothesis =>
    rw [digits_succ, List.length_append, inductionHypothesis, List.length_singleton]

theorem exists_of_mem_digits {c : Char} {length n : Nat} (member : c ∈ digits length n) :
    ∃ digit < 32, c = alphabet.getD digit '0' := by
  induction length generalizing n with
  | zero => cases member
  | succ length inductionHypothesis =>
    obtain before | last := List.mem_append.mp member
    · exact inductionHypothesis before
    · exact ⟨n % 32, Nat.mod_lt _ (by decide), List.mem_singleton.mp last⟩

theorem valueOf?_append_singleton (value : Nat) (text : List Char) (c : Char) :
    valueOf? value (text ++ [c]) =
      (valueOf? value text).bind fun held =>
        (digitValue? c).map fun digit => 32 * held + digit := by
  induction text generalizing value with
  | nil =>
    simp only [List.nil_append, valueOf?, Option.bind_some]
    cases digitValue? c <;> rfl
  | cons first rest inductionHypothesis =>
    simp only [List.cons_append, valueOf?]
    cases digitValue? first with
    | none => rfl
    | some digit => exact inductionHypothesis _

theorem valueOf?_digits (length n : Nat) (fits : n < 32 ^ length) :
    valueOf? 0 (digits length n) = some n := by
  induction length generalizing n with
  | zero =>
    have zero : n = 0 := by simpa using fits
    rw [zero]
    rfl
  | succ length inductionHypothesis =>
    have shorter : n / 32 < 32 ^ length := by
      rw [Nat.pow_succ] at fits
      exact Nat.div_lt_of_lt_mul (by omega)
    rw [digits_succ, valueOf?_append_singleton, inductionHypothesis _ shorter, Option.bind_some,
      digitValue?_alphabet _ (Nat.mod_lt _ (by decide)), Option.map_some, Nat.div_add_mod]

/-- Twenty-six digits of five bits hold every identifier of 128 bits. -/
theorem value_lt_digits (id : Ulid) : id.value < 32 ^ textLength :=
  Nat.lt_trans id.value_lt (show size < 32 ^ textLength by decide)

/-! ### Reading in either case -/

theorem valueOf?_map_toUpper (value : Nat) {text : List Char}
    (capital : ∀ c ∈ text, c.toUpper.toUpper = c.toUpper) :
    valueOf? value (text.map Char.toUpper) = valueOf? value text := by
  induction text generalizing value with
  | nil => rfl
  | cons c rest inductionHypothesis =>
    have same : digitValue? c.toUpper = digitValue? c := by
      rw [digitValue?, capital c List.mem_cons_self, digitValue?]
    simp only [List.map_cons, valueOf?, same]
    cases digitValue? c with
    | none => rfl
    | some digit =>
      exact inductionHypothesis _ fun d member => capital d (List.mem_cons_of_mem c member)

theorem utf8ByteSize_ofList {text : List Char} (single : ∀ c ∈ text, c.utf8Size = 1) :
    (String.ofList text).utf8ByteSize = text.length := by
  induction text with
  | nil => rfl
  | cons c rest inductionHypothesis =>
    have later := inductionHypothesis fun d member => single d (List.mem_cons_of_mem c member)
    rw [← List.singleton_append, String.ofList_append, String.utf8ByteSize_append, later,
      ← String.singleton_eq_ofList, String.utf8ByteSize_singleton, single c List.mem_cons_self,
      List.length_append, List.length_singleton]

/-- The text of an identifier reads back as the identifier, in letters of either case. -/
theorem read_of_toUpper {id : Ulid} {text : String}
    (same : text.toList.map Char.toUpper = id.text.toList) : read text = .ok id := by
  have own : text.toList.map Char.toUpper = digits textLength id.value := by
    rw [same, Ulid.text, String.toList_ofList]
  have digit (c : Char) (member : c ∈ text.toList) :
      ∃ digit < 32, c.toUpper = alphabet.getD digit '0' :=
    exists_of_mem_digits (own ▸ List.mem_map_of_mem member)
  have size : text.utf8ByteSize = textLength := by
    rw [← String.ofList_toList (s := text), utf8ByteSize_ofList, ← List.length_map Char.toUpper,
      own, length_digits]
    intro c member
    obtain ⟨_, fits, capital⟩ := digit c member
    exact utf8Size_of_toUpper fits capital
  have value : valueOf? 0 text.toList = some id.value := by
    rw [← valueOf?_map_toUpper, own, valueOf?_digits _ _ id.value_lt_digits]
    intro c member
    obtain ⟨digit, fits, capital⟩ := digit c member
    rw [capital, toUpper_alphabet digit fits]
  simp only [read, size, ne_eq, not_true_eq_false, if_false, value, ofNat,
    Nat.mod_eq_of_lt id.value_lt]

/-- The text of an identifier is in capital letters. -/
theorem map_toUpper_text (id : Ulid) : id.text.toList.map Char.toUpper = id.text.toList := by
  refine (List.map_congr_left fun c member => ?_).trans (List.map_id _)
  rw [text, String.toList_ofList] at member
  obtain ⟨digit, fits, rfl⟩ := exists_of_mem_digits member
  exact toUpper_alphabet digit fits

theorem read_text (id : Ulid) : read id.text = .ok id := read_of_toUpper id.map_toUpper_text

/-! ### The order of texts -/

/-- Between lists of one length the last place only counts behind equal places before it. -/
theorem append_singleton_lt {a b : Char} {left right : List Char}
    (same : left.length = right.length) (less : left < right ∨ left = right ∧ a < b) :
    left ++ [a] < right ++ [b] := by
  induction left generalizing right with
  | nil =>
    obtain rfl : right = [] := List.length_eq_zero_iff.mp same.symm
    obtain absurd | ⟨-, last⟩ := less
    · exact (List.lt_irrefl _ absurd).elim
    · exact List.cons_lt_cons_iff.mpr (Or.inl last)
  | cons first rest inductionHypothesis =>
    cases right with
    | nil => cases same
    | cons other others =>
      have shorter : rest.length = others.length := Nat.succ.inj same
      rw [List.cons_append, List.cons_append, List.cons_lt_cons_iff]
      obtain before | ⟨equal, last⟩ := less
      · obtain head | ⟨head, tail⟩ := List.cons_lt_cons_iff.mp before
        · exact Or.inl head
        · exact Or.inr ⟨head, inductionHypothesis shorter (Or.inl tail)⟩
      · obtain ⟨head, tail⟩ := List.cons.inj equal
        exact Or.inr ⟨head, inductionHypothesis shorter (Or.inr ⟨tail, last⟩)⟩

theorem digits_lt_digits (length : Nat) {m n : Nat} (fits : n < 32 ^ length) (less : m < n) :
    digits length m < digits length n := by
  induction length generalizing m n with
  | zero => omega
  | succ length inductionHypothesis =>
    have shorter : n / 32 < 32 ^ length := by
      rw [Nat.pow_succ] at fits
      exact Nat.div_lt_of_lt_mul (by omega)
    rw [digits_succ, digits_succ]
    refine append_singleton_lt (by rw [length_digits, length_digits]) ?_
    by_cases before : m / 32 < n / 32
    · exact Or.inl (inductionHypothesis shorter before)
    · have equal : m / 32 = n / 32 := by omega
      have last : m % 32 < n % 32 := by omega
      exact Or.inr ⟨by rw [equal], alphabet_ascending _ (Nat.mod_lt _ (by decide)) _ last⟩

/-- Texts are ordered as the identifiers they stand for. -/
theorem text_lt_text (a b : Ulid) : a.text < b.text ↔ a.value < b.value := by
  have ascending (a b : Ulid) (less : a.value < b.value) : a.text < b.text := by
    rw [String.lt_iff, text, text, String.toList_ofList, String.toList_ofList]
    exact digits_lt_digits textLength b.value_lt_digits less
  refine ⟨fun less => ?_, ascending a b⟩
  obtain before | equal | behind := Nat.lt_trichotomy a.value b.value
  · exact before
  · have same : a.text = b.text := by rw [text, text, equal]
    rw [same] at less
    exact (String.lt_irrefl _ less).elim
  · exact (String.lt_asymm less (ascending b a behind)).elim

end Ulid

namespace Id

variable {kind : IdKind}

theorem eq_of_value_eq {a b : Id kind} (same : a.ulid.value = b.ulid.value) : a = b := by
  obtain ⟨⟨_, _⟩⟩ := a
  obtain ⟨⟨_, _⟩⟩ := b
  cases same
  rfl

/-- What is dropped in front of a text is the name of a kind, if the text has it. -/
theorem dropTag?_eq_some_iff {tag text rest : List Char} :
    dropTag? tag text = some rest ↔ text = tag ++ rest := by
  induction tag generalizing text with
  | nil => exact Option.some_inj
  | cons first tag inductionHypothesis =>
    cases text with
    | nil => exact ⟨nofun, nofun⟩
    | cons c text =>
      rw [dropTag?, List.cons_append, List.cons.injEq, ← inductionHypothesis]
      split
      · next same => exact ⟨fun dropped => ⟨same.symm, dropped⟩, And.right⟩
      · next other => exact ⟨nofun, fun both => absurd both.1.symm other⟩

theorem hyphen_mem_tag (kind : IdKind) : '-' ∈ kind.tag.toList := by
  cases kind <;> decide

/-- No text of an identifier starts with the name of a kind, whatever the case of its letters. -/
theorem dropTag?_of_toUpper {id : Id kind} {text : List Char}
    (same : text.map Char.toUpper = id.bare.toList) : dropTag? kind.tag.toList text = none := by
  refine Option.eq_none_iff_forall_ne_some.mpr fun rest dropped => ?_
  have front : '-' ∈ text :=
    dropTag?_eq_some_iff.mp dropped ▸ List.mem_append_left rest (hyphen_mem_tag kind)
  have inside : '-' ∈ id.bare.toList := same ▸ List.mem_map.mpr ⟨'-', front, rfl⟩
  rw [bare, Ulid.text, String.toList_ofList] at inside
  obtain ⟨digit, fits, hyphen⟩ := Ulid.exists_of_mem_digits inside
  exact Ulid.hyphen_ne_alphabet digit fits hyphen

/-- A text reads as an identifier in letters of either case, with or without the name of its
kind. -/
theorem read_of_toUpper {id : Id kind} {text : String}
    (same : text.toList.map Char.toUpper = id.bare.toList) :
    read text = .ok id ∧ read (kind.tag ++ text) = .ok id := by
  have ulid : Ulid.read text = .ok id.ulid := Ulid.read_of_toUpper same
  have dropped : dropTag? kind.tag.toList (kind.tag ++ text).toList = some text.toList :=
    dropTag?_eq_some_iff.mpr (String.toList_append)
  refine ⟨?_, ?_⟩
  · rw [read, dropTag?_of_toUpper same, Option.elim_none, ulid]
  · rw [read, dropped, Option.elim_some, String.ofList_toList, ulid]

/-- The text that records hold reads back as the identifier. -/
theorem read_bare (id : Id kind) : read id.bare = .ok id :=
  (read_of_toUpper id.ulid.map_toUpper_text).1

/-- What records hold of an identifier reads back as the identifier. -/
theorem decode_encode (id : Id kind) : decode id.encode = .ok id := by
  have read : Ulid.read id.bare = .ok id.ulid := Ulid.read_text id.ulid
  simp only [decode, encode, Json.toText, bind, Except.bind, read]

theorem bare_injective : Function.Injective (@bare kind) := by
  intro a b same
  have read := read_bare a
  rw [same, read_bare] at read
  exact (Except.ok.inj read).symm

end Id

end TaskAutomation
