import Relational.Conversion
import Relational.Proofs.Except

namespace Relational

open MonadExcept (ofExcept)

variable {σ ε α β : Type} {x : ExceptT ε (StateM σ) α} {f : α → ExceptT ε (StateM σ) β}
  {s s₁ s₂ s' : σ} {r : Except ε α}

def Ends (x : ExceptT ε (StateM σ) α) (s : σ) (r : Except ε α) (s' : σ) : Prop :=
  x.run.run s = (r, s')

def Gives (access : StateM σ α) (s : σ) (a : α) (s' : σ) : Prop :=
  access.run s = (a, s')

theorem exists_ends (x : ExceptT ε (StateM σ) α) (s : σ) : ∃ r s', Ends x s r s' :=
  ⟨_, _, rfl⟩

theorem Ends.unique {r' : Except ε α} (h : Ends x s r s₁) (h' : Ends x s r' s₂) :
    r = r' ∧ s₁ = s₂ :=
  Prod.ext_iff.mp (h.symm.trans h')

theorem exists_gives (access : StateM σ α) (s : σ) : ∃ a s', Gives access s a s' :=
  ⟨_, _, rfl⟩

theorem Gives.unique {access : StateM σ α} {a a' : α} (h : Gives access s a s₁)
    (h' : Gives access s a' s₂) : a = a' ∧ s₁ = s₂ :=
  Prod.ext_iff.mp (h.symm.trans h')

theorem ends_pure {a : α} : Ends (pure a) s r s' ↔ r = .ok a ∧ s' = s :=
  Prod.ext_iff.trans (and_congr eq_comm eq_comm)

theorem ends_throw {e : ε} : Ends (throw e) s r s' ↔ r = .error e ∧ s' = s :=
  Prod.ext_iff.trans (and_congr eq_comm eq_comm)

theorem ends_ofExcept {y : Except ε α} :
    Ends (ofExcept y : ExceptT ε (StateM σ) α) s r s' ↔ r = y ∧ s' = s := by
  cases y
  case error => exact ends_throw
  case ok => exact ends_pure

theorem Ends.bind_iff {a : α} {r : Except ε β} (h : Ends x s (.ok a) s₁) :
    Ends (x >>= f) s r s' ↔ Ends (f a) s₁ r s' := by
  simp only [Ends, ExceptT.run_bind, StateT.run_bind] at h ⊢
  rw [h]
  rfl

theorem Ends.bind_error {e : ε} (h : Ends x s (.error e) s₁) :
    Ends (x >>= f) s (.error e) s₁ := by
  simp only [Ends, ExceptT.run_bind, StateT.run_bind] at h ⊢
  rw [h]
  rfl

theorem ends_bind_ok {b : β} :
    Ends (x >>= f) s (.ok b) s' ↔ ∃ a s₁, Ends x s (.ok a) s₁ ∧ Ends (f a) s₁ (.ok b) s' := by
  have ⟨r, s₁, h⟩ := exists_ends x s
  constructor
  case mp =>
    intro hb
    cases r
    case error => cases (h.bind_error.unique hb).left
    case ok a => exact ⟨a, s₁, h, h.bind_iff.mp hb⟩
  case mpr => exact fun ⟨_, _, h, hb⟩ => h.bind_iff.mpr hb

theorem ends_ofExcept_ok {y : Except ε α} {a : α} :
    Ends (ofExcept y : ExceptT ε (StateM σ) α) s (.ok a) s' ↔ y = .ok a ∧ s' = s :=
  ends_ofExcept.trans (and_congr_left' eq_comm)

theorem ends_ofExcept_bind_ok {y : Except ε α} {b : β} :
    Ends (ofExcept y >>= f) s (.ok b) s' ↔ ∃ a, y = .ok a ∧ Ends (f a) s (.ok b) s' := by
  simp only [ends_bind_ok, ends_ofExcept_ok, and_assoc, exists_and_left, exists_eq_left]

theorem Gives.bind_iff {access : StateM σ α} {f : α → ExceptT ε (StateM σ) β} {a : α}
    {r : Except ε β} (h : Gives access s a s₁) :
    Ends (liftM access >>= f) s r s' ↔ Ends (f a) s₁ r s' := by
  have hl : Ends (liftM access >>= f) s r s' ↔
      Ends (f (access.run s).1) (access.run s).2 r s' := Iff.rfl
  rw [hl, h]

theorem ends_accessing_ok {access : StateM σ (Except FileFault α)} {path : String}
    {activity : FileActivity} {a : α} :
    Ends (accessing path activity access) s (.ok a) s' ↔ Gives access s (.ok a) s' := by
  have ⟨r, s₁, h⟩ := exists_gives access s
  rw [accessing, h.bind_iff, Gives, show access.run s = (r, s₁) from h, Prod.ext_iff]
  cases r
  case error => simp [ends_throw]
  case ok => simp [ends_pure, eq_comm]

end Relational
