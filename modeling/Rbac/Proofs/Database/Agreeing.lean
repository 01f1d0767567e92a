import Rbac.Proofs.Database.Grants
import Rbac.Proofs.Database.Saving

namespace Rbac.Sql

variable {α β : Type} {engine : Engine} {tables after : Tables} {store left : Store}
  {supply later : Supply} {clocks : List Clock}

/-- Over the tables a transaction ends as it does in memory: with the same result, and the same
identifiers drawn. If it succeeds, the tables mirror the store that it leaves. -/
structure Agrees (engine : Engine) (t : Transaction α) (store : Store) (tables : Tables)
    (supply : Supply) : Prop where
  result : ((ofTransaction t).perform engine tables supply).1 = (t.run store supply).1
  drawn : ((ofTransaction t).perform engine tables supply).2.2 = (t.run store supply).2.2
  mirrors : ∀ value, (t.run store supply).1 = .ok value →
    Mirrors ((ofTransaction t).perform engine tables supply).2.1 (t.run store supply).2.1

theorem Session.bind_assoc {γ : Type} (s : Session α) (f : α → Session β) (g : β → Session γ) :
    (s.bind f).bind g = s.bind fun value => (f value).bind g := by
  induction s with
  | done value => rfl
  | fail failure => rfl
  | draw next ih => exact congrArg Session.draw (funext ih)
  | send statement next ih => exact congrArg (Session.send statement) (funext ih)

theorem ofTransaction_bind (t : Transaction α) (f : α → Transaction β) :
    ofTransaction (t >>= f) = ofTransaction t >>= fun value => ofTransaction (f value) := by
  change ofTransaction (t.bind f) = (ofTransaction t).bind _
  induction t with
  | done value => rfl
  | fail failure => rfl
  | draw next ih => exact congrArg Session.draw (funext ih)
  | ask operation next ih =>
    have hnext : (fun answer => ofTransaction ((next answer).bind f)) = fun answer =>
        (ofTransaction (next answer)).bind fun value => ofTransaction (f value) := funext ih
    change (ofOperation operation).bind (fun answer => ofTransaction ((next answer).bind f)) =
      ((ofOperation operation).bind fun answer => ofTransaction (next answer)).bind _
    rw [hnext, Session.bind_assoc]

theorem Session.perform_ofTransaction_bind {t : Transaction α} {value : α}
    (f : α → Transaction β)
    (h : (ofTransaction t).perform engine tables supply = (.ok value, after, later)) :
    (ofTransaction (t >>= f)).perform engine tables supply =
      (ofTransaction (f value)).perform engine after later := by
  rw [ofTransaction_bind, perform_bind _ h]

theorem Session.perform_ofDraw (d : Draw α) :
    (ofTransaction (Transaction.ofDraw d)).perform engine tables supply =
      (.ok (d.run supply).1, tables, (d.run supply).2) := by
  induction d generalizing supply with
  | done value => rfl
  | draw next ih => exact ih supply.next

namespace Agrees

theorem done (h : Mirrors tables store) (value : α) :
    Agrees engine (.done value) store tables supply :=
  ⟨rfl, rfl, fun _ _ => h⟩

theorem fail (failure : Failure) :
    Agrees engine (.fail failure : Transaction α) store tables supply := by
  refine ⟨rfl, rfl, ?_⟩
  intro value hvalue
  cases hvalue

theorem bind {t : Transaction α} {value : α} {f : α → Transaction β}
    (hrun : t.run store supply = (.ok value, left, later))
    (hperform : (ofTransaction t).perform engine tables supply = (.ok value, after, later))
    (hrest : Agrees engine (f value) left after later) :
    Agrees engine (t >>= f) store tables supply := by
  have hran : (t >>= f).run store supply = (f value).run left later := by
    rw [Transaction.run_bind, hrun]
  have hperformed := Session.perform_ofTransaction_bind f hperform
  refine ⟨?_, ?_, ?_⟩
  · rw [hran, hperformed]
    exact hrest.result
  · rw [hran, hperformed]
    exact hrest.drawn
  · rw [hran, hperformed]
    exact hrest.mirrors

theorem request {operation : Operation} {answer : operation.Answer}
    {f : operation.Answer → Transaction β} (happly : operation.apply store = (.ok answer, left))
    (hperform : (ofOperation operation).perform engine tables supply =
      (.ok answer, after, supply))
    (hrest : Agrees engine (f answer) left after supply) :
    Agrees engine (Transaction.request operation >>= f) store tables supply :=
  bind (Transaction.run_request store supply happly) (Session.perform_bind _ hperform) hrest

theorem ofDraw {d : Draw α} {f : α → Transaction β}
    (hrest : Agrees engine (f (d.run supply).1) store tables (d.run supply).2) :
    Agrees engine (Transaction.ofDraw d >>= f) store tables supply :=
  bind (Transaction.run_ofDraw d store supply) (Session.perform_ofDraw d) hrest

theorem ofExcept {result : Except Failure α} {f : α → Transaction β}
    (hrest : ∀ value, result = .ok value → Agrees engine (f value) store tables supply) :
    Agrees engine (Transaction.ofExcept result >>= f) store tables supply := by
  cases result with
  | error failure => exact fail failure
  | ok value => exact hrest value rfl

section Queries

variable (h : Mirrors tables store) (hkept : Orderly clocks store)
include h hkept

theorem findRole {id : Uuid} {f : Option Role → Transaction β}
    (hrest : Agrees engine (f (store.role? id)) store tables supply) :
    Agrees engine (Transaction.findRole id >>= f) store tables supply :=
  request rfl (h.perform_findRole hkept engine supply id) hrest

omit hkept in
theorem nameTaken {name : Text} {scope : Scope} {except : Option Uuid}
    {f : Bool → Transaction β}
    (hrest : Agrees engine (f (store.nameTaken name scope except)) store tables supply) :
    Agrees engine (Transaction.nameTaken name scope except >>= f) store tables supply :=
  request rfl (h.perform_nameTaken engine supply name scope except) hrest

theorem findAssignment {id : Uuid} {f : Option Grant → Transaction β}
    (hrest : Agrees engine (f (store.grant? id)) store tables supply) :
    Agrees engine (Transaction.findAssignment id >>= f) store tables supply :=
  request rfl (h.perform_findAssignment hkept engine supply id) hrest

theorem grantOf {role user scopeId : Uuid} {f : Option Grant → Transaction β}
    (hrest : Agrees engine (f (store.grantOf? role user scopeId)) store tables supply) :
    Agrees engine (Transaction.grantOf role user scopeId >>= f) store tables supply :=
  request rfl (h.perform_grantOf hkept engine supply role user scopeId) hrest

theorem grantsOf {user scopeId : Uuid} {f : List Grant → Transaction β}
    (hrest : Agrees engine (f (store.grantsOf user scopeId)) store tables supply) :
    Agrees engine (Transaction.grantsOf user scopeId >>= f) store tables supply :=
  request rfl (h.perform_grantsOf hkept engine supply user scopeId) hrest

omit hkept in
theorem isAssigned {role user scopeId : Uuid} {f : Bool → Transaction β}
    (hrest : Agrees engine (f (store.isAssigned role user scopeId)) store tables supply) :
    Agrees engine (Transaction.isAssigned role user scopeId >>= f) store tables supply :=
  request rfl (h.perform_isAssigned engine supply role user scopeId) hrest

omit hkept in
theorem countByRole {role : Uuid} {f : Nat → Transaction β}
    (hrest : Agrees engine (f (store.countByRole role)) store tables supply) :
    Agrees engine (Transaction.countByRole role >>= f) store tables supply :=
  request rfl (Session.perform_bind _ (h.perform_countByRole engine supply role)) hrest

end Queries

theorem grantEach {role : Role} {actions : List Text} {clock : Clock}
    {f : Role → Transaction β}
    (hrest : ∀ granted later, (role.addEach clock actions).run supply = ((.ok (), granted), later) →
      Agrees engine (f granted) store tables later) :
    Agrees engine (UseCase.grantEach role actions clock >>= f) store tables supply := by
  rw [UseCase.grantEach, Transaction.bind_assoc]
  apply ofDraw
  rcases hadded : (role.addEach clock actions).run supply with ⟨⟨failure | _, granted⟩, later⟩
  · exact fail failure
  · exact hrest granted later hadded

end Agrees
end Rbac.Sql
