import Relational.Proofs.Sql.Token
import Relational.Sql.Script

namespace Relational.Sql

inductive Statement where
  | create (t : TableDefinition)
  | add (table : String) (r : Reference)
  | commit
  deriving DecidableEq, Repr

inductive Item where
  | column (c : ColumnDefinition)
  | primaryKey (k : PrimaryKey)
  | reference (r : Reference)
  deriving DecidableEq, Repr

namespace Token

def name? : Token → Option String
  | word text => if isWord text.toList then some text else none
  | quoted name => some name
  | _ => none

def depth (depth : Nat) : Token → Nat
  | sign '(' => depth + 1
  | sign ')' => depth - 1
  | _ => depth

end Token

def split (separator : Char) (depth : Nat) : List Token → List (List Token)
  | [] => [[]]
  | t :: ts =>
    if depth = 0 ∧ t = .sign separator then [] :: split separator 0 ts
    else (split separator (t.depth depth) ts).modifyHead (t :: ·)

def inParentheses? : List Token → Option (List Token)
  | .sign '(' :: ts => if ts.getLast? = some (.sign ')') then some ts.dropLast else none
  | _ => none

def readName : List Token → Option String
  | [t] => t.name?
  | _ => none

def readNames (ts : List Token) : Option (List String) := do
  (split ',' 0 (← inParentheses? ts)).mapM readName

def readKeyOf (constraint : Option String) : List Token → Option Item
  | .word "PRIMARY" :: .word "KEY" :: ts => do
    let columns ← readNames ts
    some (.primaryKey { constraint, columns })
  | [.word "FOREIGN", .word "KEY", .sign '(', column, .sign ')', .word "REFERENCES", table,
      .sign '(', referencedColumn, .sign ')'] => do
    let column ← column.name?
    let table ← table.name?
    let referencedColumn ← referencedColumn.name?
    some (.reference { constraint, column, table, referencedColumn })
  | _ => none

def readNamedKey : List Token → Option Item
  | .word "CONSTRAINT" :: name :: ts => do
    let name ← name.name?
    readKeyOf name ts
  | _ => none

def blankBefore : List Token → String
  | .word _ :: _ => " "
  | _ => ""

def readKey (ts : List Token) : Option Item :=
  readNamedKey ts <|> readKeyOf none ts

def readType : List Token → Option String
  | [] => some ""
  | .word text :: ts => do
    let rest ← readType ts
    some (text ++ blankBefore ts ++ rest)
  | .sign c :: ts => do
    let rest ← readType ts
    some (String.singleton c ++ rest)
  | _ => none

variable (d : Dialect)

def identityTokens : List Token :=
  match d with
  | .mysql => [.word "AUTO_INCREMENT"]
  | _ => [.word "GENERATED", .word "BY", .word "DEFAULT", .word "AS", .word "IDENTITY"]

def readColumn : List Token → Option ColumnDefinition
  | [] => none
  | name :: ts => do
    let name ← name.name?
    if identityTokens d <:+ ts then
      let type ← readType (ts.take (ts.length - (identityTokens d).length))
      some { name, type, identity := true }
    else
      let type ← readType ts
      some { name, type, identity := false }

def readItem (ts : List Token) : Option Item :=
  readKey ts <|> (readColumn d ts).map .column

namespace Item

def column? : Item → Option ColumnDefinition
  | column c => some c
  | _ => none

def primaryKey? : Item → Option PrimaryKey
  | primaryKey k => some k
  | _ => none

def reference? : Item → Option Reference
  | reference r => some r
  | _ => none

end Item

def tableOfItems (name : String) (items : List Item) : Option TableDefinition :=
  let keys := items.filterMap (·.primaryKey?)
  if keys.length ≤ 1 then
    some {
      name
      columns := items.filterMap (·.column?)
      primaryKey := keys.head?
      references := items.filterMap (·.reference?) }
  else none

def readStatement : List Token → Option Statement
  | .word "CREATE" :: .word "TABLE" :: name :: ts => do
    let name ← name.name?
    let items ← (split ',' 0 (← inParentheses? ts)).mapM (readItem d)
    let t ← tableOfItems name items
    some (.create t)
  | .word "ALTER" :: .word "TABLE" :: table :: .word "ADD" :: ts => do
    let table ← table.name?
    match ← readKey ts with
    | .reference r => some (.add table r)
    | _ => none
  | [.word "COMMIT"] => some .commit
  | _ => none

def readStatements (text : String) : Option (List Statement) :=
  let parts := split ';' 0 (tokens d text)
  if parts.getLast? = some [] then parts.dropLast.mapM (readStatement d) else none

section

variable {ts us : List Token} {least : Nat} {α : Type} {toks : α → List Token} {as : List α}

def Kept (least : Nat) (ts : List Token) : Prop :=
  ∀ separator ∈ [',', ';'], ∀ depth ≥ least, ∀ rest,
    split separator depth (ts ++ rest) = (split separator depth rest).modifyHead (ts ++ ·)

namespace Kept

theorem nil : Kept least [] := by
  intro separator _ depth _ rest
  rw [List.nil_append]
  cases split separator depth rest <;> rfl

theorem append (ht : Kept least ts) (hu : Kept least us) : Kept least (ts ++ us) := by
  intro separator hs depth hd rest
  rw [List.append_assoc, ht separator hs depth hd, hu separator hs depth hd,
    List.modifyHead_modifyHead]
  congr 1
  funext l
  exact (List.append_assoc ..).symm

theorem mono {more : Nat} (h : Kept least ts) (hm : least ≤ more) : Kept more ts :=
  fun separator hs depth hd => h separator hs depth (Nat.le_trans hm hd)

theorem of_forall (h : ∀ t ∈ ts, ∀ c, t ≠ .sign c) : Kept 0 ts := by
  induction ts
  case nil => exact nil
  case cons t ts hi =>
    have ⟨ht, hts⟩ := List.forall_mem_cons.mp h
    intro separator hs depth hd rest
    have hdepth : t.depth depth = depth := by
      cases t
      case sign c => exact absurd rfl (ht c)
      all_goals rfl
    rw [List.cons_append, split, if_neg fun hc => ht _ hc.2, hdepth, hi hts separator hs depth hd,
      List.modifyHead_modifyHead]
    rfl

theorem singleton {t : Token} (h : ∀ c, t ≠ .sign c) : Kept 0 [t] :=
  of_forall (List.forall_mem_singleton.mpr h)

theorem comma : Kept 1 [.sign ','] := by
  intro separator hs depth hd rest
  rw [List.singleton_append, split, if_neg fun hc => by omega]
  rfl

theorem parenthesized (h : Kept 1 ts) : Kept 0 (.sign '(' :: (ts ++ [.sign ')'])) := by
  intro separator hs depth hd rest
  have hopen : Token.sign '(' ≠ .sign separator := by
    rintro h
    cases h
    simp at hs
  rw [List.cons_append, split, if_neg fun hc => hopen hc.2, Token.depth, List.append_assoc,
    h separator hs _ (by omega), List.singleton_append, split, if_neg (by omega)]
  simp only [Token.depth, Nat.add_sub_cancel, List.modifyHead_modifyHead]
  congr 1
  funext l
  simp

theorem intercalate (h : ∀ a ∈ as, Kept 1 (toks a)) :
    Kept 1 ([.sign ','].intercalate (as.map toks)) := by
  induction as
  case nil => exact nil
  case cons a as hi =>
    have ⟨hk, has⟩ := List.forall_mem_cons.mp h
    have hi := hi has
    cases as
    case nil => simpa using hk
    case cons a' as =>
      simp only [List.map_cons] at hi ⊢
      rw [List.intercalate_cons_cons]
      exact (hk.append comma).append hi

end Kept

theorem split_intercalate (hn : as ≠ []) (h : ∀ a ∈ as, Kept 0 (toks a)) :
    split ',' 0 ([.sign ','].intercalate (as.map toks)) = as.map toks := by
  induction as
  case nil => exact absurd rfl hn
  case cons a as hi =>
    have ⟨hk, has⟩ := List.forall_mem_cons.mp h
    have hs := hk ',' (by decide) 0 (Nat.le_refl _)
    cases as
    case nil => simpa [split] using hs []
    case cons a' as =>
      have hi := hi (List.cons_ne_nil _ _) has
      simp only [List.map_cons] at hi ⊢
      rw [List.intercalate_cons_cons, List.append_assoc, hs, List.singleton_append, split,
        if_pos ⟨rfl, rfl⟩, hi]
      simp

theorem split_flatMap (h : ∀ a ∈ as, Kept 0 (toks a)) :
    split ';' 0 (as.flatMap fun a => toks a ++ [.sign ';']) = as.map toks ++ [[]] := by
  induction as
  case nil => rfl
  case cons a as hi =>
    have ⟨hk, has⟩ := List.forall_mem_cons.mp h
    rw [List.flatMap_cons, List.append_assoc, hk ';' (by decide) 0 (Nat.le_refl _),
      List.singleton_append, split, if_pos ⟨rfl, rfl⟩, hi has]
    simp

theorem inParentheses?_append : inParentheses? (.sign '(' :: (ts ++ [.sign ')'])) = some ts := by
  simp [inParentheses?]

theorem mapM_map {α β : Type} {read : β → Option α} {write : α → β} {as : List α}
    (h : ∀ a ∈ as, read (write a) = some a) : (as.map write).mapM read = some as := by
  induction as
  case nil => rfl
  case cons a as hi =>
    have ⟨ha, has⟩ := List.forall_mem_cons.mp h
    rw [List.map_cons, List.mapM_cons, ha, hi has]
    rfl

end

end Relational.Sql
