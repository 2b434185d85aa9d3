import Automation.Proofs.Moment.Text
import Automation.RowId
import Automation.Store

/-!
# Ids of the rows of a table

The id of a row ends in a suffix without underscores, so that the last underscore in it stands
before the suffix: rows with different suffixes have different ids, whatever their tables are called
(`Row.suffix_eq`). In the order of ids no digit of a suffix comes after the character that ends the
range of a table, so the range has the ids of all rows of the table (`Row.includes_id`), though it
may have those of others too.

Suffixes are fresh as long as no two of them are the same (`Row.FreshSuffixes`). Nothing is said of
the order in which they come.
-/

namespace Automation

open Text

namespace Text

/-- A common start decides nothing about the order of two texts. -/
theorem charsBefore_append (cs as bs : List Char) :
    charsBefore (cs ++ as) (cs ++ bs) = charsBefore as bs := by
  induction cs with
  | nil => rfl
  | cons c cs ih => simp [charsBefore, ih]

end Text

namespace Row

/-! ## Suffixes -/

/-- A digit in base sixteen, in lower case. -/
def isHexDigit (c : Char) : Bool :=
  isDigit c || ('a' ≤ c && c ≤ 'f')

/-- A suffix has 32 digits in base sixteen. -/
structure IsSuffix (suffix : String) : Prop where
  length : suffix.toList.length = suffixWidth
  digits : ∀ c ∈ suffix.toList, isHexDigit c = true

/-- The first suffixes of a source, up to a number, are all different. -/
structure FreshSuffixes (source : Nat → String) (count : Nat) : Prop where
  isSuffix : ∀ n ≤ count, IsSuffix (source n)
  distinct : ∀ n ≤ count, ∀ m ≤ count, source n = source m → n = m

instance (suffix : String) : Decidable (IsSuffix suffix) :=
  decidable_of_iff (suffix.toList.length = suffixWidth ∧ suffix.toList.all isHexDigit = true)
    ⟨fun h => ⟨h.1, List.all_eq_true.1 h.2⟩, fun h => ⟨h.length, List.all_eq_true.2 h.digits⟩⟩

instance (source : Nat → String) (count : Nat) : Decidable (FreshSuffixes source count) :=
  decidable_of_iff ((∀ n ≤ count, IsSuffix (source n)) ∧
      ∀ n ≤ count, ∀ m ≤ count, source n = source m → n = m)
    ⟨fun h => ⟨h.1, h.2⟩, fun h => ⟨h.isSuffix, h.distinct⟩⟩

/-- If more suffixes are fresh, then fewer are. -/
theorem FreshSuffixes.mono {source : Nat → String} {count later : Nat}
    (h : FreshSuffixes source later) (hle : count ≤ later) : FreshSuffixes source count where
  isSuffix n hn := h.isSuffix n (Nat.le_trans hn hle)
  distinct n hn m hm := h.distinct n (Nat.le_trans hn hle) m (Nat.le_trans hm hle)

/-- The digits of suffixes are characters of ASCII. -/
theorem toNat_of_isHexDigit {c : Char} (h : isHexDigit c = true) : c.toNat ≤ 102 := by
  simp only [isHexDigit, Bool.or_eq_true, Bool.and_eq_true, decide_eq_true_eq] at h
  rcases h with hdigit | ⟨-, hlast⟩
  · exact Nat.le_trans (toNat_of_isDigit hdigit) (by decide)
  · exact hlast

/-- No digit of a suffix is an underscore. -/
theorem IsSuffix.not_underscore {suffix : String} (h : IsSuffix suffix) : '_' ∉ suffix.toList :=
  fun hmem => absurd (h.digits _ hmem) (by decide)

/-- Counted suffixes are fresh as long as their width is enough. -/
theorem freshSuffixes_counted {count : Nat} (h : count < Nat.pow 10 suffixWidth) :
    FreshSuffixes countedSuffix count where
  isSuffix n hn := by
    refine ⟨?_, fun c hc => ?_⟩
    · rw [countedSuffix, String.toList_ofList]
      exact length_padded (by decide) (Nat.lt_of_le_of_lt hn h)
    · rw [countedSuffix, String.toList_ofList] at hc
      rw [isHexDigit, isDigit_of_mem_padded c hc, Bool.true_or]
  distinct n _ m _ heq := by
    have hread := readDigitsFrom_padded suffixWidth n
    rw [countedSuffix, countedSuffix, String.ofList_inj] at heq
    rw [heq, readDigitsFrom_padded] at hread
    exact (Option.some.inj hread).symm

/-! ## Ids -/

/-- The characters of an id, cut before its suffix. -/
theorem toList_idOf (table suffix : String) :
    (idOf table suffix).toList = (idStart ++ table).toList ++ '_' :: suffix.toList := by
  rw [idOf, tableStart, String.toList_append, String.toList_append, List.append_assoc]
  rfl

/-- Rows with one id have one suffix. -/
theorem suffix_eq {table other suffix suffix' : String} (hsuffix : IsSuffix suffix)
    (hsuffix' : IsSuffix suffix') (h : idOf table suffix = idOf other suffix') :
    suffix = suffix' := by
  -- What follows the last underscore of an id is its suffix.
  have hlast (table : String) {suffix : String} (hsuffix : IsSuffix suffix) :
      ((idOf table suffix).toList.reverse.takeWhile (· ≠ '_')).reverse = suffix.toList := by
    rw [toList_idOf, List.reverse_append, List.reverse_cons, List.append_assoc,
      List.singleton_append, List.takeWhile_append_of_pos]
    · simp
    · intro c hc
      simp only [decide_eq_true_eq]
      rintro rfl
      exact hsuffix.not_underscore (List.mem_reverse.1 hc)
  refine String.toList_inj.1 ?_
  rw [← hlast table hsuffix, h, hlast other hsuffix']

/-- The range of a table has the ids of its rows. -/
theorem includes_id (table : String) {suffix : String} (hsuffix : IsSuffix suffix) :
    (IdRange.startingWith (tableStart table)).includes (idOf table suffix) = true := by
  have hfirst : before (idOf table suffix) (tableStart table) = false := by
    have h := charsBefore_append (tableStart table).toList suffix.toList []
    rw [List.append_nil] at h
    rw [before, idOf, String.toList_append, h]
    cases suffix.toList with
    | nil => rfl
    | cons c cs => rfl
  have hlast : before (tableStart table ++ String.ofList [Char.ofNat 0xFFF0])
      (idOf table suffix) = false := by
    rw [before, idOf, String.toList_append, String.toList_append, charsBefore_append,
      String.toList_ofList]
    cases hcs : suffix.toList with
    | nil => rfl
    | cons c cs =>
      have hbound : c.toNat ≤ 102 :=
        toNat_of_isHexDigit (hsuffix.digits c (by rw [hcs]; exact List.mem_cons_self ..))
      have hne : Char.ofNat 0xFFF0 ≠ c := by
        rintro rfl
        exact absurd hbound (by decide)
      have hlarge : (Char.ofNat 0xFFF0).toNat = 0xFFF0 := by decide
      simp only [charsBefore, hlarge, beq_eq_false_iff_ne.2 hne]
      simp
      omega
  rw [IdRange.includes, IdRange.startingWith]
  simp [atMost, hfirst, hlast]

end Row

end Automation
