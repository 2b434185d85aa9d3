import Automation.Proofs.Row.Id
import Automation.Proofs.Store
import Automation.Proofs.Text.Order

/-!
# Ids with a common start

A range of ids is an interval of their bytes (`IdRange.includes_iff_encode`). That of the ids that
begin with a text reaches from the text to the same text with `U+FFF0` behind it. Every id in the
range begins with the text, and of the ids that do the range has those that go on with something up
to that character (`IdRange.includes_startingWith`). So the documents listed for a text are those
whose ids begin with it, as long as no id goes on with a larger character, or with that one and
something after it (`Store.documents_startingWith`). A document whose id goes on with an emoji is
left out (`Store.documents_startingWith_emoji`).
-/

namespace Automation

open Text

namespace IdRange

/-- A range is an interval of bytes: no id in it comes before the first or after the last. -/
theorem includes_iff_encode {range : IdRange} {id : String} :
    range.includes id = true ↔
      (∀ first, range.first = some first →
        ¬Utf8.encode id.toList < Utf8.encode first.toList) ∧
      ∀ last, range.last = some last → ¬Utf8.encode last.toList < Utf8.encode id.toList := by
  have hatMost {a b : String} :
      atMost a b = true ↔ ¬Utf8.encode b.toList < Utf8.encode a.toList := by
    rw [atMost, Bool.not_eq_true', ← Bool.not_eq_true, before_iff_encode]
  rw [includes, Bool.and_eq_true, Option.all_eq_true, Option.all_eq_true]
  simp only [hatMost]

/-- A text that comes after `U+FFF0`: it begins with a larger character, or has something behind
that one. -/
def IsBeyond : List Char → Prop
  | [] => False
  | c :: rest => 0xFFF0 < c.toNat ∨ c.toNat = 0xFFF0 ∧ rest ≠ []

/-- What follows the start of an id is beyond the range if it comes after the last character. -/
theorem isBeyond_iff {rest : List Char} :
    IsBeyond rest ↔ charsBefore [Char.ofNat 0xFFF0] rest = true := by
  have hlast : (Char.ofNat 0xFFF0).toNat = 0xFFF0 := by decide
  cases rest with
  | nil => exact ⟨False.elim, fun h => nomatch h⟩
  | cons c rest =>
    have hnil : charsBefore [] rest = true ↔ rest ≠ [] := by cases rest <;> simp [charsBefore]
    rw [IsBeyond, charsBefore, Bool.or_eq_true, decide_eq_true_eq, Bool.and_eq_true, beq_iff_eq,
      hnil, ← Char.toNat_inj, hlast, eq_comm]

/-- Between a text and the same text with a character behind it are only texts that begin with
it. -/
theorem between_iff {start cs : List Char} {last : Char} :
    charsBefore cs start = false ∧ charsBefore (start ++ [last]) cs = false ↔
      ∃ rest, cs = start ++ rest ∧ charsBefore [last] rest = false := by
  constructor
  · rintro ⟨hfirst, hlast⟩
    induction start generalizing cs with
    | nil => exact ⟨cs, rfl, hlast⟩
    | cons c start ih =>
      cases cs with
      | nil => cases hfirst
      | cons d cs =>
        simp only [List.cons_append, charsBefore, Bool.or_eq_false_iff, decide_eq_false_iff_not,
          Bool.and_eq_false_imp, beq_iff_eq] at hfirst hlast
        -- Neither of the two characters is the smaller one.
        have hcd : c = d := Char.toNat_inj.1 (by omega)
        subst hcd
        obtain ⟨rest, rfl, hrest⟩ := ih (hfirst.2 rfl) (hlast.2 rfl)
        exact ⟨rest, rfl, hrest⟩
  · rintro ⟨rest, rfl, hrest⟩
    have hfirst := charsBefore_append start rest []
    rw [List.append_nil] at hfirst
    rw [hfirst, charsBefore_append]
    exact ⟨by cases rest <;> rfl, hrest⟩

/-- The ids in the range of a text are those that begin with it and do not go on beyond `U+FFF0`. -/
theorem includes_startingWith {start id : String} :
    (startingWith start).includes id = true ↔
      ∃ rest, id.toList = start.toList ++ rest ∧ ¬IsBeyond rest := by
  have hends : (startingWith start).includes id = true ↔
      charsBefore id.toList start.toList = false ∧
        charsBefore (start.toList ++ [Char.ofNat 0xFFF0]) id.toList = false := by
    rw [includes, startingWith, Option.all_some, Option.all_some, Bool.and_eq_true, atMost, atMost,
      Bool.not_eq_true', Bool.not_eq_true', before, before, String.toList_append,
      String.toList_ofList]
  rw [hends, between_iff]
  exact exists_congr fun rest => and_congr_right fun _ => by
    rw [isBeyond_iff, Bool.not_eq_true]

end IdRange

namespace Store

/-- The documents in a range are listed in the order of all of them. -/
theorem within_eq_filter (s : Store) (t : Tenant) (range : IdRange) :
    s.within t range = (s.within t {}).filter fun d => range.includes d.id := by
  have hall : (s.partition t).filter (fun field => ({} : IdRange).includes field.1) =
      s.partition t := List.filter_eq_self.2 fun _ _ => rfl
  rw [within, within, hall, List.filter_map]
  rfl

/-- The documents listed for a text are, in their order, all those of the tenant whose ids begin
with it and do not go on beyond `U+FFF0`; and such are the ids in its range. -/
theorem documents_startingWith (s : Store) (t : Tenant) (start : String) :
    (∀ id, (IdRange.startingWith start).includes id = true ↔
      ∃ rest, id.toList = start.toList ++ rest ∧ ¬IdRange.IsBeyond rest) ∧
    (s.documents t (.startingWith start)).Sublist (s.documents t {}) ∧
    ∀ d, d ∈ s.documents t (.startingWith start) ↔ d ∈ s.documents t {} ∧
      ∃ rest, d.id.toList = start.toList ++ rest ∧ ¬IdRange.IsBeyond rest := by
  have hlisted : s.documents t (.startingWith start) =
      (s.documents t {}).filter fun d => (IdRange.startingWith start).includes d.id := by
    rw [documents_eq, documents_eq]
    exact within_eq_filter s t (.startingWith start)
  refine ⟨fun id => IdRange.includes_startingWith, ?_, fun d => ?_⟩
  · rw [hlisted]
    exact List.filter_sublist
  · rw [hlisted, List.mem_filter, IdRange.includes_startingWith]

/-- A document whose id is a text with an emoji behind it is not listed for the text. -/
theorem documents_startingWith_emoji :
    let t : Tenant := ⟨"t"⟩
    let d : Document := { id := "a😀", body := .object [] }
    let s := (({} : Store).put t d).2
    "a".toList <+: d.id.toList ∧ (IdRange.startingWith "a").includes d.id = false ∧
      (s.documents t {}).map (·.id) = ["a😀"] ∧
      (s.documents t (.startingWith "a")).map (·.id) = [] := by
  decide +kernel

end Store

end Automation
