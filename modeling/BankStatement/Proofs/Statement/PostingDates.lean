import BankStatement.Proofs.Calendar.Order
import BankStatement.Statement.Basic

/-!
# The period of a statement

The period is found by going through the posting dates once, with the earliest and the latest one so
far.  These are the least and the greatest of the dates in the order of moments
(`Statement.postedRange_eq`), so what is known of the least and the greatest element of a list holds
of the period.  In particular the period depends on the dates alone and not on their order
(`Statement.postedRange_perm`).
-/

namespace BankStatement.Statement

variable {statement : Statement}

/-- The posting dates of the transactions that have one, in order. -/
def postingDates (statement : Statement) : List Moment :=
  statement.transactions.filterMap (·.posted)

theorem mem_postingDates {moment : Moment} :
    moment ∈ statement.postingDates ↔
      ∃ transaction ∈ statement.transactions, transaction.posted = some moment :=
  List.mem_filterMap

theorem postingDates_eq_nil_iff :
    statement.postingDates = [] ↔
      ∀ transaction ∈ statement.transactions, transaction.posted = none :=
  List.filterMap_eq_nil_iff

theorem foldl_extend (rest : List Moment) (period : Moment × Moment) :
    rest.foldl extend period = (rest.foldl min period.1, rest.foldl max period.2) := by
  induction rest generalizing period with
  | nil => rfl
  | cons moment rest ih =>
      rw [List.foldl_cons, ih, extend, Moment.earlier_eq_min, Moment.later_eq_max]
      rfl

/-- The ends of the period are the least and the greatest posting date. -/
theorem postedRange_eq (statement : Statement) :
    statement.postedRange = statement.postingDates.min?.bind fun first =>
      statement.postingDates.max?.map fun last => (first, last) := by
  unfold postedRange
  show _ = (statement.transactions.filterMap (·.posted)).min?.bind fun first =>
    (statement.transactions.filterMap (·.posted)).max?.map fun last => (first, last)
  cases statement.transactions.filterMap (·.posted) with
  | nil => rfl
  | cons first rest =>
      show some (rest.foldl extend (first, first)) = _
      rw [foldl_extend, List.min?_cons', List.max?_cons']
      rfl

theorem postedRange_eq_none_iff :
    statement.postedRange = none ↔
      ∀ transaction ∈ statement.transactions, transaction.posted = none := by
  rw [← postingDates_eq_nil_iff, postedRange_eq]
  cases statement.postingDates with
  | nil => simp
  | cons first rest => simp

/-- A period begins and ends with posting dates, and all of them lie in it. -/
theorem postedRange_eq_some_iff {first last : Moment} :
    statement.postedRange = some (first, last) ↔
      (first ∈ statement.postingDates ∧ last ∈ statement.postingDates) ∧
        ∀ moment ∈ statement.postingDates, first ≤ moment ∧ moment ≤ last := by
  rw [postedRange_eq]
  simp only [Option.bind_eq_some_iff, Option.map_eq_some_iff, Prod.mk.injEq]
  constructor
  · rintro ⟨_, hfirst, _, hlast, rfl, rfl⟩
    obtain ⟨hfirstMem, hleast⟩ := List.min?_eq_some_iff.mp hfirst
    obtain ⟨hlastMem, hgreatest⟩ := List.max?_eq_some_iff.mp hlast
    exact ⟨⟨hfirstMem, hlastMem⟩, fun moment h => ⟨hleast moment h, hgreatest moment h⟩⟩
  · rintro ⟨⟨hfirst, hlast⟩, hall⟩
    exact ⟨first, List.min?_eq_some_iff.mpr ⟨hfirst, fun moment h => (hall moment h).1⟩,
      last, List.max?_eq_some_iff.mpr ⟨hlast, fun moment h => (hall moment h).2⟩, rfl, rfl⟩

/-- A statement with a posting date has a period around it. -/
theorem exists_postedRange_of_mem {moment : Moment} (h : moment ∈ statement.postingDates) :
    ∃ first ∈ statement.postingDates, ∃ last ∈ statement.postingDates,
      statement.postedRange = some (first, last) ∧ first ≤ moment ∧ moment ≤ last := by
  cases hrange : statement.postedRange with
  | none =>
      have hnone := postingDates_eq_nil_iff.mpr (postedRange_eq_none_iff.mp hrange)
      rw [hnone] at h
      cases h
  | some period =>
      obtain ⟨⟨hfirst, hlast⟩, hall⟩ := postedRange_eq_some_iff.mp hrange
      exact ⟨period.1, hfirst, period.2, hlast, rfl, hall moment h⟩

/-- Transactions in another order have the same period. -/
theorem postedRange_perm {other : Statement}
    (h : other.transactions.Perm statement.transactions) :
    other.postedRange = statement.postedRange := by
  have hdates : other.postingDates.Perm statement.postingDates := h.filterMap _
  cases hrange : statement.postedRange with
  | none =>
      rw [postedRange_eq_none_iff] at hrange ⊢
      intro transaction htransaction
      exact hrange transaction (h.mem_iff.mp htransaction)
  | some period =>
      obtain ⟨⟨hfirst, hlast⟩, hall⟩ := postedRange_eq_some_iff.mp hrange
      refine postedRange_eq_some_iff.mpr ⟨⟨hdates.mem_iff.mpr hfirst, hdates.mem_iff.mpr hlast⟩, ?_⟩
      intro moment hmoment
      exact hall moment (hdates.mem_iff.mp hmoment)

end BankStatement.Statement
