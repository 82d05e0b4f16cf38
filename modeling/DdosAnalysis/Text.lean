import Mathlib.Data.List.Infix
import Mathlib.Tactic.SplitIfs

/-!
# Python's string primitives

The column normalizer and the label standardizer are chains of `str.strip()`,
`str.replace(' ', '_')`, `str.lower()` and `str.upper()`. This module models them on the
characters of a string. `strip` removes exactly the characters `str.isspace` accepts.
The case mappings come from a `CaseMap`: Python applies its full Unicode tables, which are
not transcribed here, so a `CaseMap` carries as fields the properties of those tables that
the idempotence laws of the pipeline rest on. `asciiCase` is an instance, so that every
definition here can be evaluated.
-/

namespace DdosAnalysis.Text

/-- Python's `str.isspace`, the class of characters `str.strip()` removes: the
characters of bidirectional class WS, B or S and of category Zs. -/
def isPySpace (c : Char) : Bool :=
  let n := c.toNat
  (9 ≤ n && n ≤ 13) || (28 ≤ n && n ≤ 32) || n == 0x85 || n == 0xA0 || n == 0x1680 ||
    (0x2000 ≤ n && n ≤ 0x200A) || n == 0x2028 || n == 0x2029 || n == 0x202F ||
    n == 0x205F || n == 0x3000

/-- `str.strip()` on the characters of a string. -/
def stripChars (cs : List Char) : List Char :=
  ((cs.dropWhile isPySpace).reverse.dropWhile isPySpace).reverse

/-- `str.replace(' ', '_')`. -/
def replaceSpace (cs : List Char) : List Char :=
  cs.map fun c => if c = ' ' then '_' else c

/-- A case mapping as `str.lower` or `str.upper` applies it, character by character; a
character may map to several (`'ß'.upper() == 'SS'`). `asciiCase` is what the mapping does
on ASCII. The other fields hold of Python's Unicode tables: white space maps to itself, any
other character to a nonempty string without white space, and mapped characters are
fixed points. -/
structure CaseMap (asciiCase : Char → Char) where
  map : Char → List Char
  map_ascii : ∀ c : Char, c.toNat < 128 → map c = [asciiCase c]
  map_space : ∀ c : Char, isPySpace c = true → map c = [c]
  map_nonspace : ∀ c : Char, isPySpace c = false →
    map c ≠ [] ∧ ∀ d ∈ map c, isPySpace d = false
  map_fixed : ∀ c : Char, ∀ d ∈ map c, map d = [d]

/-- The two case mappings of Python's `str`. -/
structure CaseTable where
  lower : CaseMap Char.toLower
  upper : CaseMap Char.toUpper

namespace CaseMap

variable {asciiCase : Char → Char} (m : CaseMap asciiCase)

/-- The mapping applied to every character of a string. -/
def apply (cs : List Char) : List Char :=
  cs.flatMap m.map

end CaseMap

/-- `s.strip()`. -/
def pyStrip (s : String) : String :=
  ⟨stripChars s.data⟩

/-- `s.lower()`. -/
def pyLower (t : CaseTable) (s : String) : String :=
  ⟨t.lower.apply s.data⟩

/-- `s.upper()`. -/
def pyUpper (t : CaseTable) (s : String) : String :=
  ⟨t.upper.apply s.data⟩

/-- `part in s` for two strings: `part` occurs in `s` as a substring. -/
def pyContains (part s : String) : Bool :=
  decide (part.data <:+: s.data)

/-- `d.get(key)` for a dictionary written as a literal: of a key written twice the last
value counts. -/
def dictGet {α : Type} (entries : List (String × α)) (key : String) : Option α :=
  entries.reverse.lookup key

/-- `d[key] = value` on a dictionary's items: replaces the value of `key` in place, or
appends the item. -/
def dictSet {α : Type} (entries : List (String × α)) (key : String) (value : α) :
    List (String × α) :=
  if entries.any (·.1 == key) then
    entries.map fun entry => if entry.1 = key then (key, value) else entry
  else entries ++ [(key, value)]

theorem mem_of_lookup {α : Type} {key : String} {value : α} :
    ∀ {entries : List (String × α)}, entries.lookup key = some value → (key, value) ∈ entries
  | [], found => by simp at found
  | (k, v) :: rest, found => by
      rw [List.lookup_cons] at found
      split at found
      · rename_i same
        rw [Option.some.injEq] at found
        rw [beq_iff_eq.mp same, found]
        exact List.mem_cons_self _ _
      · exact List.mem_cons_of_mem _ (mem_of_lookup found)

theorem lookup_isSome_of_mem {α : Type} {key : String} {value : α} :
    ∀ {entries : List (String × α)}, (key, value) ∈ entries → (entries.lookup key).isSome
  | [], member => absurd member (List.not_mem_nil _)
  | (k, v) :: rest, member => by
      rw [List.lookup_cons]
      split
      · rfl
      · rename_i different
        rcases List.mem_cons.mp member with same | inRest
        · simp only [Prod.mk.injEq] at same
          simp [same.1] at different
        · exact lookup_isSome_of_mem inRest

theorem mem_of_dictGet {α : Type} {entries : List (String × α)} {key : String} {value : α}
    (found : dictGet entries key = some value) : (key, value) ∈ entries :=
  List.mem_reverse.mp (mem_of_lookup found)

theorem dictGet_isSome_of_mem {α : Type} {entries : List (String × α)} {key : String}
    {value : α} (member : (key, value) ∈ entries) : (dictGet entries key).isSome :=
  lookup_isSome_of_mem (List.mem_reverse.mpr member)

theorem dictSet_of_not_mem {α : Type} {entries : List (String × α)} {key : String}
    (absent : key ∉ entries.map Prod.fst) (value : α) :
    dictSet entries key value = entries ++ [(key, value)] := by
  unfold dictSet
  rw [if_neg]
  intro present
  obtain ⟨entry, member, same⟩ := List.any_eq_true.mp present
  exact absent (List.mem_map.mpr ⟨entry, member, beq_iff_eq.mp same⟩)

/-! ## `strip` -/

/-- Neither end of the characters is one `strip` removes. -/
def EndsNonSpace (cs : List Char) : Prop :=
  (∀ c ∈ cs.head?, isPySpace c = false) ∧ ∀ c ∈ cs.getLast?, isPySpace c = false

theorem dropWhile_of_head {p : Char → Bool} :
    ∀ {cs : List Char}, (∀ c ∈ cs.head?, p c = false) → cs.dropWhile p = cs
  | [], _ => rfl
  | c :: _, headKept => by
      simp [List.dropWhile_cons, headKept c rfl]

theorem head?_dropWhile (p : Char → Bool) (cs : List Char) :
    ∀ c ∈ (cs.dropWhile p).head?, p c = false := by
  have kept := List.head?_dropWhile_not p cs
  intro c member
  rw [Option.mem_def] at member
  rw [member] at kept
  exact kept

/-- `dropWhile` removes a prefix, so a nonempty result ends where the list ends. -/
theorem getLast?_dropWhile (p : Char → Bool) :
    ∀ (cs : List Char), ∀ c ∈ (cs.dropWhile p).getLast?, c ∈ cs.getLast?
  | [], _, member => member
  | d :: rest, c, member => by
      rw [List.dropWhile_cons] at member
      split at member
      · have inRest := getLast?_dropWhile p rest c member
        cases rest with
        | nil => simp at inRest
        | cons e tail => simpa [List.getLast?_cons_cons] using inRest
      · exact member

theorem stripChars_of_endsNonSpace {cs : List Char} (ends : EndsNonSpace cs) :
    stripChars cs = cs := by
  have lastKept : ∀ c ∈ cs.reverse.head?, isPySpace c = false := by
    simpa [List.head?_reverse] using ends.2
  rw [stripChars, dropWhile_of_head ends.1, dropWhile_of_head lastKept, List.reverse_reverse]

theorem endsNonSpace_stripChars (cs : List Char) : EndsNonSpace (stripChars cs) := by
  constructor
  · intro c member
    rw [stripChars, List.head?_reverse] at member
    have inFront := getLast?_dropWhile isPySpace _ c member
    rw [List.getLast?_reverse] at inFront
    exact head?_dropWhile isPySpace cs c inFront
  · intro c member
    rw [stripChars, List.getLast?_reverse] at member
    exact head?_dropWhile isPySpace _ c member

@[simp]
theorem stripChars_stripChars (cs : List Char) :
    stripChars (stripChars cs) = stripChars cs :=
  stripChars_of_endsNonSpace (endsNonSpace_stripChars cs)

/-! ## `replace(' ', '_')` -/

theorem space_not_mem_replaceSpace (cs : List Char) : ' ' ∉ replaceSpace cs := by
  simp only [replaceSpace, List.mem_map, not_exists, not_and]
  intro c _
  split <;> simp_all

theorem replaceSpace_of_not_mem {cs : List Char} (noSpace : ' ' ∉ cs) :
    replaceSpace cs = cs := by
  rw [replaceSpace, List.map_congr_left, List.map_id]
  intro c member
  have : c ≠ ' ' := fun same => noSpace (same ▸ member)
  simp [this]

theorem endsNonSpace_replaceSpace {cs : List Char} (ends : EndsNonSpace cs) :
    EndsNonSpace (replaceSpace cs) := by
  have endKept : ∀ c, isPySpace c = false →
      isPySpace (if c = ' ' then '_' else c) = false := by
    intro c kept
    have : c ≠ ' ' := by rintro rfl; exact absurd kept (by decide)
    simpa [this] using kept
  constructor
  · intro c member
    simp only [replaceSpace, List.head?_map, Option.mem_def, Option.map_eq_some'] at member
    obtain ⟨d, first, rfl⟩ := member
    exact endKept d (ends.1 d first)
  · intro c member
    simp only [replaceSpace, List.getLast?_map, Option.mem_def, Option.map_eq_some'] at member
    obtain ⟨d, last, rfl⟩ := member
    exact endKept d (ends.2 d last)

/-! ## Case mappings -/

namespace CaseMap

variable {asciiCase : Char → Char} (m : CaseMap asciiCase)

@[simp]
theorem apply_nil : m.apply [] = [] := rfl

@[simp]
theorem apply_cons (c : Char) (cs : List Char) : m.apply (c :: cs) = m.map c ++ m.apply cs :=
  List.flatMap_cons c cs m.map

theorem map_flatMap (c : Char) : (m.map c).flatMap m.map = m.map c := by
  rw [List.flatMap_congr (m.map_fixed c), List.flatMap_singleton']

@[simp]
theorem apply_apply (cs : List Char) : m.apply (m.apply cs) = m.apply cs := by
  induction cs with
  | nil => rfl
  | cons c rest inductionHypothesis =>
      rw [apply_cons, apply, List.flatMap_append, map_flatMap]
      exact congrArg _ inductionHypothesis

theorem head?_apply_of_kept {c : Char} {cs : List Char} (kept : isPySpace c = false) :
    ∀ d ∈ (m.apply (c :: cs)).head?, isPySpace d = false := by
  obtain ⟨nonempty, noSpace⟩ := m.map_nonspace c kept
  obtain ⟨e, tail, shape⟩ := List.exists_cons_of_ne_nil nonempty
  intro d member
  rw [apply_cons, shape, List.cons_append, List.head?_cons, Option.mem_def,
    Option.some.injEq] at member
  exact noSpace d (by rw [shape, ← member]; exact List.mem_cons_self e tail)

theorem endsNonSpace_apply {cs : List Char} (ends : EndsNonSpace cs) :
    EndsNonSpace (m.apply cs) := by
  constructor
  · cases cs with
    | nil => simp
    | cons c rest => exact m.head?_apply_of_kept (ends.1 c rfl)
  · intro d member
    obtain rfl | ⟨front, last, rfl⟩ := List.eq_nil_or_concat cs
    · simp at member
    · rw [List.concat_eq_append] at ends member
      have lastKept := ends.2 last (by simp)
      obtain ⟨nonempty, noSpace⟩ := m.map_nonspace last lastKept
      rw [apply, List.flatMap_append, List.flatMap_singleton, List.getLast?_append,
        List.getLast?_eq_getLast _ nonempty, Option.or_some, Option.mem_def,
        Option.some.injEq] at member
      exact noSpace d (member ▸ List.getLast_mem nonempty)

theorem space_not_mem_apply {cs : List Char} (noSpace : ' ' ∉ cs) : ' ' ∉ m.apply cs := by
  simp only [apply, List.mem_flatMap, not_exists, not_and]
  intro c member image
  by_cases space : isPySpace c = true
  · rw [m.map_space c space, List.mem_singleton] at image
    exact noSpace (image ▸ member)
  · exact absurd ((m.map_nonspace c (by simpa using space)).2 ' ' image) (by decide)

theorem apply_of_ascii {cs : List Char} (ascii : ∀ c ∈ cs, c.toNat < 128) :
    m.apply cs = cs.map asciiCase := by
  induction cs with
  | nil => rfl
  | cons c rest inductionHypothesis =>
      rw [apply_cons, m.map_ascii c (ascii c (List.mem_cons_self _ _)),
        inductionHypothesis fun d member => ascii d (List.mem_cons_of_mem _ member)]
      rfl

end CaseMap

/-! ## The ASCII case mappings -/

theorem toNat_ofNat_of_lt {n : Nat} (small : n < 0xd800) : (Char.ofNat n).toNat = n := by
  have valid : n.isValidChar := Or.inl small
  simp only [Char.ofNat, dif_pos valid, Char.ofNatAux, Char.toNat, UInt32.toNat]
  simp

theorem char_eq_of_toNat_eq {c d : Char} (same : c.toNat = d.toNat) : c = d :=
  Char.ext (UInt32.toNat.inj same)

theorem toLower_toNat (c : Char) :
    c.toLower.toNat = if 65 ≤ c.toNat ∧ c.toNat ≤ 90 then c.toNat + 32 else c.toNat := by
  simp only [Char.toLower, ge_iff_le]
  split
  · exact toNat_ofNat_of_lt (by omega)
  · rfl

theorem toUpper_toNat (c : Char) :
    c.toUpper.toNat = if 97 ≤ c.toNat ∧ c.toNat ≤ 122 then c.toNat - 32 else c.toNat := by
  simp only [Char.toUpper, ge_iff_le]
  split
  · exact toNat_ofNat_of_lt (by omega)
  · rfl

/-- No ASCII letter is white space. -/
theorem isPySpace_of_letter {c : Char} (letter : 65 ≤ c.toNat ∧ c.toNat ≤ 122) :
    isPySpace c = false := by
  simp only [isPySpace]
  simp only [Bool.or_eq_false_iff, Bool.and_eq_false_iff, decide_eq_false_iff_not,
    beq_eq_false_iff_ne, not_le]
  omega

/-- A case mapping that changes only ASCII letters, by `letterCase`. -/
def asciiCaseMap (letterCase : Char → Char)
    (toNat_letterCase : ∀ c : Char, (letterCase c).toNat = c.toNat ∨
      (65 ≤ c.toNat ∧ c.toNat ≤ 122 ∧ 65 ≤ (letterCase c).toNat ∧ (letterCase c).toNat ≤ 122))
    (letterCase_letterCase : ∀ c : Char, letterCase (letterCase c) = letterCase c) :
    CaseMap letterCase where
  map c := [letterCase c]
  map_ascii _ _ := rfl
  map_space c space := by
    show [letterCase c] = [c]
    rcases toNat_letterCase c with same | ⟨letter, _, _⟩
    · rw [char_eq_of_toNat_eq same]
    · rw [isPySpace_of_letter ⟨letter, by omega⟩] at space
      exact absurd space (by decide)
  map_nonspace c kept := by
    refine ⟨List.cons_ne_nil _ _, fun d member => ?_⟩
    rw [List.mem_singleton] at member
    subst member
    rcases toNat_letterCase c with same | ⟨_, _, lower, upper⟩
    · rwa [char_eq_of_toNat_eq same]
    · exact isPySpace_of_letter ⟨lower, upper⟩
  map_fixed c d member := by
    rw [List.mem_singleton] at member
    show [letterCase d] = [d]
    rw [member, letterCase_letterCase]

/-- `str.lower` and `str.upper` restricted to ASCII, as `Char.toLower` and
`Char.toUpper` compute them. -/
def asciiCase : CaseTable where
  lower := asciiCaseMap Char.toLower
    (fun c => by rw [toLower_toNat]; split_ifs <;> omega)
    (fun c => char_eq_of_toNat_eq <| by
      rw [toLower_toNat c.toLower, toLower_toNat c]; split_ifs <;> omega)
  upper := asciiCaseMap Char.toUpper
    (fun c => by rw [toUpper_toNat]; split_ifs <;> omega)
    (fun c => char_eq_of_toNat_eq <| by
      rw [toUpper_toNat c.toUpper, toUpper_toNat c]; split_ifs <;> omega)

end DdosAnalysis.Text
