import Mathlib.Tactic.Lemma
import StageStock.Proofs.Requests

/-!
An order that fails has done nothing.

* `Desk.fulfil_error_atomic`: when an order under a lock fails, for whatever reason and on whatever
  store, every table, the locks and the listeners are as they were, apart from what other workers
  have committed to the same equipment meanwhile;
* `Store.threeLamps`: a small store to try such statements on.
-/

namespace StageStock

namespace Desk

variable {desk : Desk} {call : Call} {o : Order} {failure : Failure}

/-- What a failing order under a lock comes to. -/
lemma fulfil_of_error (locked : o.isLocked = true)
    (failed : (desk.fulfil call o).result = .error failure) :
    ∃ k, desk.fulfil call o
      = { result := .error failure
          desk := { desk with
            store := o.afterRivals desk.store call.now (call.rivals.take k) } } := by
  obtain ⟨request, hrequest⟩ := o.exists_request? locked call.now.date
  rw [fulfil_eq_mutate hrequest, mutate] at failed ⊢
  cases hmade : request desk.store with
  | error e =>
      simp only [hmade, Except.error.injEq] at failed ⊢
      exact ⟨0, by rw [List.take_zero, o.afterRivals_nil, failed]⟩
  | ok m =>
      simp only [hmade] at failed ⊢
      have hmakes := (Order.makes_iff hrequest).1 hmade
      obtain ⟨k, houtcome⟩ := mutateWith_error hmakes.answers failed
      exact ⟨k, by rw [houtcome, Order.afterRivals, hmakes.equipment?_eq]⟩

/-- An order under a lock that fails leaves all tables as they were, apart from the commits of other
workers to its equipment; the locks are held as before, and no listener was told anything. -/
theorem fulfil_error_atomic (locked : o.isLocked = true)
    (failed : (desk.fulfil call o).result = .error failure) :
    (∃ k, (desk.fulfil call o).desk
        = { desk with store := o.afterRivals desk.store call.now (call.rivals.take k) })
      ∧ (desk.fulfil call o).deliveries = [] := by
  obtain ⟨k, houtcome⟩ := fulfil_of_error locked failed
  rw [houtcome]
  exact ⟨⟨k, rfl⟩, rfl⟩

end Desk

/-- Three lamps, all of them in the store. -/
def Store.threeLamps : Store :=
  { equipments := Table.empty.insert { name := some "Lamp", total := 3 } }

/-- A recount of the lamps by another worker. -/
def Rival.recount : Rival :=
  { action := "Recount", changes := [.setTotal 4] }

/-- An order that is overtaken and not tried again has failed, and told nobody. -/
theorem Desk.fulfil_error_atomic_overtaken :
    let desk : Desk := { store := .threeLamps, lockRetries := 0 }
    let o : Order := .setTotal 1 5 none
    let overtaken := desk.fulfil { now := default, rivals := [.recount] } o
    overtaken.result = .error (.overtaken 1 "EditTotalQuantity" 0 1)
      ∧ (∃ k, overtaken.desk
        = { desk with store := o.afterRivals desk.store default ([.recount].take k) })
      ∧ overtaken.deliveries = [] := by
  have hfailed : (({ store := .threeLamps, lockRetries := 0 } : Desk).fulfil
      { now := default, rivals := [.recount] } (.setTotal 1 5 none)).result
        = .error (.overtaken 1 "EditTotalQuantity" 0 1) := rfl
  exact ⟨hfailed, fulfil_error_atomic rfl hfailed⟩

end StageStock
