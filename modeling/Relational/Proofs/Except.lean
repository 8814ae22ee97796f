import Mathlib.Data.List.Forall2

namespace Relational

variable {ε σ α β : Type}

theorem ok_bind (a : α) (f : α → Except ε β) : Except.ok a >>= f = f a :=
  rfl

theorem error_bind (e : ε) (f : α → Except ε β) : Except.error e >>= f = Except.error e :=
  rfl

theorem bind_exceptMap (x : Except ε σ) (f : σ → α) (g : α → Except ε β) :
    x.map f >>= g = x >>= fun a => g (f a) := by
  cases x <;> rfl

theorem bind_eq_ok {x : Except ε α} {f : α → Except ε β} {b : β} :
    x >>= f = .ok b ↔ ∃ a, x = .ok a ∧ f a = .ok b := by
  cases x <;> simp [bind, Except.bind]

theorem map_eq_ok {x : Except ε α} {f : α → β} {b : β} :
    f <$> x = .ok b ↔ ∃ a, x = .ok a ∧ f a = b := by
  cases x <;> simp [Functor.map, Except.map]

theorem mapError_eq_ok {ε' : Type} {x : Except ε α} {f : ε → ε'} {a : α} :
    x.mapError f = .ok a ↔ x = .ok a := by
  cases x <;> simp [Except.mapError]

theorem bind_congr_ok {x : Except ε α} {f g : α → Except ε β} (h : ∀ a, x = .ok a → f a = g a) :
    x >>= f = x >>= g := by
  cases x
  case error => rfl
  case ok a => exact h a rfl

theorem toOption_eq_some {x : Except ε α} {a : α} : x.toOption = some a ↔ x = .ok a := by
  cases x <;> simp [Except.toOption]

theorem toOption_bind (x : Except ε α) (f : α → Except ε β) :
    (x >>= f).toOption = x.toOption.bind fun a => (f a).toOption := by
  cases x <;> rfl

theorem toOption_map (f : α → β) (x : Except ε α) : (f <$> x).toOption = x.toOption.map f := by
  cases x <;> rfl

theorem toOption_mapM (f : α → Except ε β) (as : List α) :
    (as.mapM f).toOption = as.mapM fun a => (f a).toOption := by
  induction as
  case nil => rfl
  case cons a as hi =>
    simp only [List.mapM_cons, toOption_bind, hi]
    rfl

theorem mapM_eq_ok {f : α → Except ε β} {as : List α} {bs : List β} :
    as.mapM f = .ok bs ↔ List.Forall₂ (fun a b => f a = .ok b) as bs := by
  induction as generalizing bs
  case nil => simp [pure, Except.pure, eq_comm]
  case cons a as hi =>
    simp only [List.mapM_cons, bind_eq_ok, hi, pure, Except.pure, Except.ok.injEq,
      List.forall₂_cons_left_iff]
    grind

theorem exists_mem_of_forall₂ {R : α → β → Prop} {as : List α} {bs : List β}
    (h : List.Forall₂ R as bs) : ∀ b ∈ bs, ∃ a ∈ as, R a b := by
  induction h
  case nil => simp
  case cons => grind

theorem exists_mem_of_mapM_ok {f : α → Except ε β} {as : List α} {bs : List β}
    (h : as.mapM f = .ok bs) : ∀ a ∈ as, ∃ b ∈ bs, f a = .ok b :=
  exists_mem_of_forall₂ (mapM_eq_ok.mp h).flip

theorem exists_mem_of_mem_mapM_ok {f : α → Except ε β} {as : List α} {bs : List β}
    (h : as.mapM f = .ok bs) : ∀ b ∈ bs, ∃ a ∈ as, f a = .ok b :=
  exists_mem_of_forall₂ (mapM_eq_ok.mp h)

theorem exists_mapM_ok_iff {f : α → Except ε β} {as : List α} :
    (∃ bs, as.mapM f = .ok bs) ↔ ∀ a ∈ as, ∃ b, f a = .ok b := by
  constructor
  · intro ⟨bs, h⟩ a ha
    have ⟨b, _, hb⟩ := exists_mem_of_mapM_ok h a ha
    exact ⟨b, hb⟩
  · intro h
    induction as
    case nil => exact ⟨[], rfl⟩
    case cons a as hi =>
      have ⟨⟨b, hb⟩, has⟩ := List.forall_mem_cons.mp h
      have ⟨bs, hbs⟩ := hi has
      exact ⟨b :: bs, mapM_eq_ok.mpr (.cons hb (mapM_eq_ok.mp hbs))⟩

theorem mapM_eq_some {f : α → Option β} {as : List α} {bs : List β} :
    as.mapM f = some bs ↔ List.Forall₂ (fun a b => f a = some b) as bs := by
  induction as generalizing bs
  case nil => simp [pure, eq_comm]
  case cons a as hi =>
    simp only [List.mapM_cons, Option.bind_eq_bind, Option.bind_eq_some_iff, hi, pure,
      Option.some.injEq, List.forall₂_cons_left_iff]
    grind

theorem exists_mem_of_mem_mapM {f : α → Option β} {as : List α} {bs : List β}
    (h : as.mapM f = some bs) : ∀ b ∈ bs, ∃ a ∈ as, f a = some b :=
  exists_mem_of_forall₂ (mapM_eq_some.mp h)

theorem isSome_mapM {f : α → Option β} {as : List α} :
    (as.mapM f).isSome ↔ ∀ a ∈ as, (f a).isSome := by
  induction as
  case nil => simp [pure]
  case cons a as hi =>
    rw [List.mapM_cons, List.forall_mem_cons, ← hi]
    cases f a
    case none => simp
    case some b => cases as.mapM f <;> simp [pure]

theorem forM_eq_ok {f : α → Except ε Unit} {as : List α} {u : Unit} :
    forM as f = .ok u ↔ ∀ a ∈ as, f a = .ok () := by
  induction as
  case nil => simp [pure, Except.pure]
  case cons a as hi =>
    simp only [List.forM_cons, bind_eq_ok, hi, List.mem_cons, forall_eq_or_imp]
    exact ⟨fun ⟨_, ha, hs⟩ => ⟨ha, hs⟩, fun ⟨ha, hs⟩ => ⟨(), ha, hs⟩⟩

theorem toOption_foldlM (step : σ → α → Except ε σ) (holding : List α → σ) {P : α → Prop}
    [DecidablePred P]
    (h : ∀ before a, (step (holding before) a).toOption =
      if P a then some (holding (before ++ [a])) else none) (before items : List α) :
    (items.foldlM step (holding before)).toOption =
      if ∀ a ∈ items, P a then some (holding (before ++ items)) else none := by
  induction items generalizing before
  case nil => simp [pure, Except.pure, Except.toOption]
  case cons a items hi =>
    rw [List.foldlM_cons, toOption_bind, h]
    by_cases ha : P a
    case neg => simp [ha]
    case pos => simp [ha, hi]

theorem foldlM_flatMap {m : Type → Type} [Monad m] [LawfulMonad m] (items : List α)
    (g : α → List β) (f : σ → β → m σ) (s : σ) :
    (items.flatMap g).foldlM f s = items.foldlM (fun s a => (g a).foldlM f s) s := by
  induction items generalizing s
  case nil => rfl
  case cons a items hi => simp [hi]

def failure? : Except ε α → Option ε
  | .error e => some e
  | .ok _    => none

@[simp]
theorem failure?_eq_some {x : Except ε α} {e : ε} : failure? x = some e ↔ x = .error e := by
  cases x <;> simp [failure?]

@[simp]
theorem failure?_eq_none {x : Except ε α} : failure? x = none ↔ ∃ a, x = .ok a := by
  cases x <;> simp [failure?]

theorem failure?_map (f : α → β) (x : Except ε α) : failure? (x.map f) = failure? x := by
  cases x <;> rfl

theorem failure?_bind {x : Except ε α} {f : α → Except ε β} {later : Option ε}
    (h : ∀ a, x = .ok a → failure? (f a) = later) :
    failure? (x >>= f) = (failure? x).or later := by
  cases x
  case error => rfl
  case ok a => exact h a rfl

theorem failure?_bind_ok {x : Except ε α} {f : α → Except ε β} (h : ∀ a, ∃ b, f a = .ok b) :
    failure? (x >>= f) = failure? x :=
  (failure?_bind fun a _ => failure?_eq_none.mpr (h a)).trans Option.or_none

theorem findSome?_cons_or (f : α → Option β) (a : α) (as : List α) :
    (a :: as).findSome? f = (f a).or (as.findSome? f) := by
  rw [List.findSome?_cons]
  cases f a <;> rfl

theorem failure?_mapM (f : α → Except ε β) (as : List α) :
    failure? (as.mapM f) = as.findSome? fun a => failure? (f a) := by
  induction as
  case nil => rfl
  case cons a as hi =>
    rw [List.mapM_cons, findSome?_cons_or, ← hi]
    exact failure?_bind fun b _ => failure?_bind_ok fun bs => ⟨b :: bs, rfl⟩

theorem failure?_forM (f : α → Except ε Unit) (as : List α) :
    failure? (forM as f) = as.findSome? fun a => failure? (f a) := by
  induction as
  case nil => rfl
  case cons a as hi =>
    rw [List.forM_cons, findSome?_cons_or, ← hi]
    exact failure?_bind fun _ _ => rfl

-- What is wrong with the first item that has anything wrong with it, where each item is judged by
-- those that stand before it.
def firstFault? (fault? : List α → α → Option ε) (before : List α) : List α → Option ε
  | [] => none
  | a :: as => (fault? before a).or (firstFault? fault? (before ++ [a]) as)

theorem firstFault?_eq_some {fault? : List α → α → Option ε} {before as : List α} {e : ε} :
    firstFault? fault? before as = some e ↔
      ∃ front a back, as = front ++ a :: back ∧ firstFault? fault? before front = none ∧
        fault? (before ++ front) a = some e := by
  induction as generalizing before
  case nil => simp [firstFault?]
  case cons a as hi =>
    rw [firstFault?, Option.or_eq_some_iff, hi]
    constructor
    case mp =>
      rintro (h | ⟨hn, front, b, back, rfl, hf, h⟩)
      case inl => exact ⟨[], a, as, rfl, rfl, by simpa using h⟩
      case inr => exact ⟨a :: front, b, back, rfl, by simp [firstFault?, hn, hf], by simpa using h⟩
    case mpr =>
      rintro ⟨front, b, back, he, hf, h⟩
      cases front
      case nil =>
        cases he
        exact .inl (by simpa using h)
      case cons c front =>
        cases he
        have ⟨hn, hf⟩ := Option.or_eq_none_iff.mp hf
        exact .inr ⟨hn, front, b, back, rfl, hf, by simpa using h⟩

theorem failure?_foldlM {f : σ → α → Except ε σ} {fault? : α → Option ε} {as : List α}
    (h : ∀ a ∈ as, ∀ s, failure? (f s a) = fault? a) (s : σ) :
    failure? (as.foldlM f s) = as.findSome? fault? := by
  induction as generalizing s
  case nil => rfl
  case cons a as hi =>
    have ⟨ha, has⟩ := List.forall_mem_cons.mp h
    rw [List.foldlM_cons, findSome?_cons_or, ← ha s]
    exact failure?_bind fun s' _ => hi has s'

end Relational
