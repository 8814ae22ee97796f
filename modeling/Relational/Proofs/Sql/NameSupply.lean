import Relational.Proofs.Sql.ConstraintNames
import Relational.Proofs.Text.Claim

namespace Relational

open Text

namespace Sql

variable {d : Dialect}

def nameConstraints (d : Dialect) (used : UsedNames) :
    List String → List (Option String) × UsedNames
  | [] => ([], used)
  | base :: bases =>
    let (name, used) := nameConstraint d used base
    let (names, used) := nameConstraints d used bases
    (name :: names, used)

theorem nameConstraints_eq (hd : d.namesConstraints) (used : UsedNames) (bases : List String) :
    nameConstraints d used bases =
      ((claimAll id used bases).map some, (claimAll id used bases).reverse ++ used) := by
  induction bases generalizing used
  case nil => rfl
  case cons base bases ih => simp [nameConstraints, nameConstraint, hd, ih, claimAll]

end Sql

namespace Demand

variable {tables : List Table} {d : Demand}

def joinBase (ends : Endpoint × Endpoint) : String :=
  ends.1.table.name ++ "_" ++ ends.2.table.name

def addJoins (tables : List Table) (d : Demand) : List (Endpoint × Endpoint) → Demand
  | [] => d
  | (left, right) :: ends => addJoins tables (d.addJoin tables left right) ends

theorem synthesized_foldl_addKey (keys : List PlacedKey) :
    (keys.foldl addKey d).synthesized = d.synthesized := by
  induction keys generalizing d
  case nil => rfl
  case cons k keys ih => rw [List.foldl_cons, ih, synthesized_addKey]

theorem synthesized_addJoin {left right : Endpoint} (h : ¬d.hasPair left right) :
    (d.addJoin tables left right).synthesized =
      d.synthesized ++ [joinTable (lowerNames (tables ++ d.synthesized)) left right] := by
  rw [addJoin_of_not_hasPair h]
  exact synthesized_foldl_addKey _

theorem exists_claimAll_addJoins (tables : List Table) (d : Demand)
    (ends : List (Endpoint × Endpoint)) :
    ∃ bases, bases.Sublist (ends.map joinBase) ∧
      (d.addJoins tables ends).synthesized.map (·.name) = d.synthesized.map (·.name) ++
        claimAll lowercase (lowerNames (tables ++ d.synthesized)) bases := by
  induction ends generalizing d
  case nil => exact ⟨[], .slnil, (List.append_nil _).symm⟩
  case cons e ends ih =>
    obtain ⟨left, right⟩ := e
    have ⟨bases, hb, he⟩ := ih (d.addJoin tables left right)
    by_cases hp : d.hasPair left right
    case pos =>
      rw [addJoin_of_hasPair hp] at he
      refine ⟨bases, hb.cons _, ?_⟩
      rw [addJoins, addJoin_of_hasPair hp, he]
    case neg =>
      let join := joinTable (lowerNames (tables ++ d.synthesized)) left right
      -- In which order names were taken makes no difference.
      have ht : ∀ k, k ∈ lowerNames (tables ++ (d.synthesized ++ [join])) ↔
          k ∈ lowercase join.name :: lowerNames (tables ++ d.synthesized) := by
        intro k
        rw [← List.append_assoc, lowerNames, List.map_append, List.mem_append, List.map_singleton,
          List.mem_singleton, List.mem_cons, or_comm]
        rfl
      rw [synthesized_addJoin hp, claimAll_congr distinguishes_lowercase ht] at he
      refine ⟨joinBase (left, right) :: bases, hb.cons_cons _, ?_⟩
      rw [addJoins, he, List.map_append, List.append_assoc]
      rfl

end Demand

-- Names for constraints are claimed with regard to letter case, those of join tables without. What
-- is claimed, whatever is taken at the start, is found in time, is the first free candidate for its
-- base, differs from all that is taken and is itself taken from then on.
theorem claims_constraints_joins :
    (∀ (d : Dialect) (used : Sql.UsedNames) (bases : List String), d.namesConstraints →
      ∃ names, Sql.nameConstraints d used bases = (names.map some, names.reverse ++ used) ∧
        Claims id used bases names ∧ names.Nodup ∧ names.Disjoint used) ∧
    (∀ taken bases : List String,
      Claims lowercase taken bases (claimAll lowercase taken bases) ∧
        ((claimAll lowercase taken bases).map lowercase).Nodup ∧
        ((claimAll lowercase taken bases).map lowercase).Disjoint taken) ∧
    ∀ (tables : List Table) (d : Demand) (ends : List (Endpoint × Endpoint)),
      ∃ bases, bases.Sublist (ends.map Demand.joinBase) ∧
        (d.addJoins tables ends).synthesized.map (·.name) = d.synthesized.map (·.name) ++
          claimAll lowercase (lowerNames (tables ++ d.synthesized)) bases := by
  refine ⟨fun d used bases hd => ?constraints, fun taken bases => ?joins,
    Demand.exists_claimAll_addJoins⟩
  case constraints =>
    have h := claims_claimAll distinguishes_id used bases
    have hn := h.nodup
    have hu := h.disjoint
    rw [List.map_id] at hn hu
    exact ⟨_, Sql.nameConstraints_eq hd used bases, h, hn, hu⟩
  case joins =>
    have h := claims_claimAll distinguishes_lowercase taken bases
    exact ⟨h, h.nodup, h.disjoint⟩

theorem claims_constraints_joins_numbered :
    Dialect.oracle.namesConstraints ∧
    (∃ names, Sql.nameConstraints .oracle ["fk_a_b", "fk_a_b_3"] ["fk_a_b", "fk_a_b_2", "fk_a_b"] =
        (names.map some, names.reverse ++ ["fk_a_b", "fk_a_b_3"]) ∧
      names = ["fk_a_b_2", "fk_a_b_2_2", "fk_a_b_4"] ∧ names.Nodup) ∧
    ((claimAll lowercase ["a_b"] ["A_B", "a_B"]).map lowercase).Nodup ∧
    claimAll lowercase ["a_b"] ["A_B", "a_B"] = ["A_B_2", "a_B_3"] := by
  have hd : Dialect.oracle.namesConstraints := rfl
  have ⟨hc, hj, _⟩ := claims_constraints_joins
  have ⟨names, he, _, hn, _⟩ :=
    hc .oracle ["fk_a_b", "fk_a_b_3"] ["fk_a_b", "fk_a_b_2", "fk_a_b"] hd
  have hrun : Sql.nameConstraints .oracle ["fk_a_b", "fk_a_b_3"] ["fk_a_b", "fk_a_b_2", "fk_a_b"] =
      (["fk_a_b_2", "fk_a_b_2_2", "fk_a_b_4"].map some,
        ["fk_a_b_4", "fk_a_b_2_2", "fk_a_b_2", "fk_a_b", "fk_a_b_3"]) := by decide
  have hnames := congrArg Prod.fst (he.symm.trans hrun)
  have hnames := (Option.some_injective String).list_map hnames
  exact ⟨hd, ⟨names, he, hnames, hn⟩, (hj ["a_b"] ["A_B", "a_B"]).2.1, by decide⟩

end Relational
