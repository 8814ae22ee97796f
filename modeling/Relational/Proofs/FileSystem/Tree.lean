import Relational.FileSystem.Tree
import Relational.Proofs.FileSystem.Work

namespace Relational.FileTree

variable {t t' : FileTree} {l l' l₀ : Location} {e : Entry} {path : String} {content : ByteArray}

theorem entry?_put_self (h : l ≠ []) : entry? (t.put l e) l = some e := by
  unfold entry? put
  rw [if_neg (by simpa using h), List.lookup_cons_self]

theorem lookup_filter_of_ne (h : l' ≠ l) (entries : List (Location × Entry)) :
    (entries.filter (·.1 != l)).lookup l' = entries.lookup l' := by
  induction entries
  case nil => rfl
  case cons p entries hi =>
    obtain ⟨k, e⟩ := p
    by_cases hk : k = l <;> grind

theorem entry?_put_of_ne (h : l' ≠ l) : entry? (t.put l e) l' = t.entry? l' := by
  have he : (l' == l) = false := beq_false_of_ne h
  unfold entry? put
  rw [List.lookup_cons, he, lookup_filter_of_ne h]

theorem follow_put {parts : List (List Char)} (hl : t.entry? l ≠ some .directory)
    (h : t.follow l₀ parts = .ok l') : (t.put l e).follow l₀ parts = .ok l' := by
  induction parts generalizing l₀
  case nil => exact h
  case cons part rest hi =>
    rw [follow] at h ⊢
    split at h
    case h_3 hd =>
      have hne : l₀ ≠ l := fun he => hl (he ▸ hd)
      rw [entry?_put_of_ne hne, hd]
      dsimp only
      split
      case isTrue hn => rw [if_pos hn] at h; cases h
      case isFalse hn => rw [if_neg hn] at h; exact hi h
    all_goals cases h

theorem locate_put (hl : t.entry? l ≠ some .directory) (h : t.locate path = .ok l') :
    (t.put l e).locate path = .ok l' := by
  simp only [locate] at h ⊢
  split at h
  case isTrue => cases h
  case isFalse hn =>
    split at h
    case isTrue => cases h
    case isFalse hm =>
      split at h
      case isTrue => cases h
      case isFalse he =>
        rw [if_neg hn, if_neg hm, if_neg he]
        exact follow_put hl h

theorem write_eq_ok : t.write path content = .ok t' ↔
    ∃ l, t.locate path = .ok l ∧ wantsDirectory path = false ∧ t.entry? l ≠ some .directory ∧
      t.put l (.file content) = t' := by
  rw [write, bind_eq_ok]
  refine exists_congr fun l => and_congr_right fun _ => ?_
  have hd : (t.entry? l).any Entry.isDirectory = true ↔ t.entry? l = some .directory := by
    rcases t.entry? l with _ | _ | _ <;> simp [Entry.isDirectory]
  rw [← and_assoc, ← Bool.not_eq_true, ne_eq, ← hd, ← not_or]
  split
  case isTrue h => exact ⟨nofun, fun h' => absurd h h'.left⟩
  case isFalse h => exact ⟨fun h' => ⟨h, Except.ok.inj h'⟩, fun h' => congrArg _ h'.right⟩

-- No path leads to another place because of the file that is written.
theorem read_write (h : t.write path content = .ok t') : t'.read path = .ok content := by
  obtain ⟨l, hl, hw, hd, rfl⟩ := write_eq_ok.mp h
  have hne : l ≠ [] := fun h => hd (h ▸ rfl)
  rw [read, locate_put hd hl, ok_bind, entry?_put_self hne]
  simp [hw]

theorem gives_attempt {change : FileTree → Except FileFault FileTree} :
    Gives (attempt change) t (.ok ()) t' ↔ change t = .ok t' := by
  simp only [Gives, attempt, StateT.run_bind, StateT.run_get, pure_bind]
  cases change t
  case error e =>
    have hne : Except.error e ≠ Except.ok () := by simp
    exact iff_of_false (fun h => hne (congrArg Prod.fst h)) (by simp)
  case ok => exact Prod.ext_iff.trans ⟨fun h => congrArg _ h.right, fun h => ⟨rfl, Except.ok.inj h⟩⟩

end Relational.FileTree
