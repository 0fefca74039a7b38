import ServiceClient.Description
import ServiceClient.Proofs.Outcome

/-!
Steps that refuse descriptions. A step is `Decided` by a condition if it ends well where that holds,
and refuses a description where it does not; steps done one after the other are decided by all
their conditions.
-/

namespace ServiceClient

section

variable {α β : Type} {x : Except Failure α} {holds holds' : Prop} {promise : α → Prop}

/-- A step is decided by a condition: if it holds the step ends well and gives what is promised, and
otherwise a description is refused. -/
def Decided (x : Except Failure α) (holds : Prop) (promise : α → Prop) : Prop :=
  (holds ∧ ∃ a, x = .ok a ∧ promise a) ∨ (¬holds ∧ ∃ cause, x = .error (.description cause))

theorem decided_ok {a : α} (kept : promise a) : Decided (.ok a) True promise :=
  .inl ⟨trivial, a, rfl, kept⟩

theorem decided_refused {cause : DescriptionFault} :
    Decided (.error (.description cause) : Except Failure α) False promise :=
  .inr ⟨id, cause, rfl⟩

theorem Decided.congr (decided : Decided x holds promise) (same : holds ↔ holds') :
    Decided x holds' promise := by
  rwa [Decided, ← same]

theorem Decided.imp {promise' : α → Prop} (decided : Decided x holds promise)
    (kept : ∀ a, promise a → promise' a) : Decided x holds promise' :=
  decided.imp_left fun ⟨here, a, done, promised⟩ => ⟨here, a, done, kept a promised⟩

/-- The condition holds of whatever comes after a step that ended well. -/
theorem Decided.keep (decided : Decided x holds promise) :
    Decided x holds fun a => holds ∧ promise a :=
  decided.imp_left fun ⟨here, a, done, promised⟩ => ⟨here, a, done, here, promised⟩

theorem Decided.bind {f : α → Except Failure β} {promise' : β → Prop}
    (first : Decided x holds promise) (holds' : Prop)
    (rest : ∀ a, promise a → Decided (f a) holds' promise') :
    Decided (x >>= f) (holds ∧ holds') promise' := by
  rcases first with ⟨here, a, rfl, kept⟩ | ⟨not, cause, rfl⟩
  · rcases rest a kept with ⟨later, done⟩ | ⟨not, refused⟩
    · exact .inl ⟨⟨here, later⟩, done⟩
    · exact .inr ⟨fun both => not both.2, refused⟩
  · exact .inr ⟨fun both => not both.1, cause, rfl⟩

/-- A step whose condition holds is followed by the rest. -/
theorem Decided.map {f : α → β} {promise' : β → Prop} (decided : Decided x holds promise)
    (kept : ∀ a, promise a → promise' (f a)) : Decided (do return f (← x)) holds promise' :=
  (decided.bind (f := fun a => pure (f a)) True fun a done => decided_ok (kept a done)).congr
    ⟨And.left, fun here => ⟨here, trivial⟩⟩

/-- Steps on the items of a list are decided by conditions on those of a related list. -/
theorem Decided.mapM_related {γ : Type} {R : γ → α → Prop} {f : α → Except Failure β} {zs : List γ}
    {xs : List α} (related : List.Forall₂ R zs xs) (holds : γ → Prop) (promise : γ → β → Prop)
    (each : ∀ z ∈ zs, ∀ a ∈ xs, R z a → Decided (f a) (holds z) (promise z)) :
    Decided (xs.mapM f) (∀ z ∈ zs, holds z) (List.Forall₂ promise zs) := by
  induction related with
  | nil => exact (decided_ok .nil).congr (by simp)
  | @cons z a zs xs here _ ih =>
    have first := each z List.mem_cons_self a List.mem_cons_self here
    have rest := ih fun z inZs a inXs =>
      each z (List.mem_cons_of_mem _ inZs) a (List.mem_cons_of_mem _ inXs)
    rw [List.mapM_cons]
    refine (first.bind _ fun b kept => rest.map fun bs all => .cons kept all).congr ?_
    rw [List.forall_mem_cons]

theorem Decided.mapM {f : α → Except Failure β} {xs : List α} (holds : α → Prop)
    (promise : α → β → Prop) (each : ∀ a ∈ xs, Decided (f a) (holds a) (promise a)) :
    Decided (xs.mapM f) (∀ a ∈ xs, holds a) (List.Forall₂ promise xs) := by
  refine Decided.mapM_related (List.forall₂_same.mpr fun _ _ => rfl) holds promise ?_
  rintro a inside _ - rfl
  exact each a inside

theorem decided_refusing {x : Except DescriptionFault α} :
    Decided (refusing x) (∃ a, x = .ok a) (fun a => x = .ok a) := by
  cases x with
  | ok a => exact .inl ⟨⟨a, rfl⟩, a, rfl, rfl⟩
  | error cause => exact .inr ⟨by simp, cause, rfl⟩

theorem refusing_bind {x : Except DescriptionFault α} {f : α → Except DescriptionFault β} :
    refusing (x >>= f) = refusing x >>= fun a => refusing (f a) := by
  cases x <;> rfl

theorem refusing_mapM {f : α → Except DescriptionFault β} (xs : List α) :
    refusing (xs.mapM f) = xs.mapM fun a => refusing (f a) := by
  induction xs with
  | nil => rfl
  | cons a xs ih =>
    rw [List.mapM_cons, List.mapM_cons, ← ih]
    cases f a with
    | error cause => rfl
    | ok b => cases xs.mapM f <;> rfl

/-- Whether a list of steps that give nothing ends well. -/
theorem forM_eq_ok {f : α → Except DescriptionFault Unit} {xs : List α} :
    (∃ a, xs.forM f = .ok a) ↔ ∀ a ∈ xs, f a = .ok () := by
  induction xs with
  | nil => exact iff_of_true ⟨(), rfl⟩ (by simp)
  | cons a xs ih =>
    change (∃ u, (f a >>= fun _ => xs.forM f) = .ok u) ↔ _
    rw [List.forall_mem_cons, ← ih]
    cases f a <;> simp

end

/-- What holds of the items of one list holds of those of another that are related to them. -/
theorem forall₂_forall_iff {α β : Type} {R : α → β → Prop} {xs : List α} {ys : List β}
    {P : α → Prop} {Q : β → Prop} (related : List.Forall₂ R xs ys)
    (same : ∀ x y, R x y → (P x ↔ Q y)) : (∀ x ∈ xs, P x) ↔ ∀ y ∈ ys, Q y := by
  induction related with
  | nil => simp
  | cons here _ ih => rw [List.forall_mem_cons, List.forall_mem_cons, same _ _ here, ih]

end ServiceClient
