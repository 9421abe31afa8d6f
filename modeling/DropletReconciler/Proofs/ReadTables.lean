import DropletReconciler.Proofs.Readable
import DropletReconciler.Proofs.Tables
import DropletReconciler.Toml.Document

/-!
# Tables that are read have each key once

A draft gives a key a value only where it has none, and otherwise changes the table that is there. So
no key stands twice in a document that could be read, at any depth (`keyed_of_read`).
-/

namespace DropletReconciler

/-- Each key stands once in every table of a value. -/
inductive Value.Keyed : Value → Prop
  | scalar {v : Value} (hscalar : v.canBeKey = true) : Value.Keyed v
  | list {items : List Value} (hitems : ∀ item ∈ items, Value.Keyed item) :
      Value.Keyed (.list items)
  | table {fields : Table} (hkeys : (Table.keys fields).Nodup)
      (hfields : ∀ field ∈ fields, Value.Keyed field.2) : Value.Keyed (.table fields)

def Table.Keyed (fields : Table) : Prop := (Value.table fields).Keyed

namespace Table.Keyed

variable {key : String} {value : Value} {fields : Table}

theorem nil : Table.Keyed [] := .table List.nodup_nil nofun

theorem cons (hnew : key ∉ keys fields) (hvalue : value.Keyed) (h : Table.Keyed fields) :
    Table.Keyed ((key, value) :: fields) := by
  cases h with
  | scalar hscalar => cases hscalar
  | table hkeys hfields =>
    refine .table (List.nodup_cons.mpr ⟨hnew, hkeys⟩) ?_
    intro field hfield
    obtain rfl | hfield := List.mem_cons.mp hfield
    · exact hvalue
    · exact hfields field hfield

theorem nodup_keys (h : Table.Keyed fields) : (keys fields).Nodup := by
  cases h with
  | scalar hscalar => cases hscalar
  | table hkeys => exact hkeys

theorem of_get? (h : Table.Keyed fields) (hget : get? key fields = some value) : value.Keyed := by
  cases h with
  | scalar hscalar => cases hscalar
  | table hkeys hfields => exact hfields _ (mem_of_get?_eq_some hget)

end Table.Keyed

namespace Toml

inductive Node.Keyed : Node → Prop
  | leaf {v : Value} (hvalue : v.Keyed) : Node.Keyed (.leaf v)
  | table {origin : Origin} {fields : List (String × Node)} (hkeys : (fields.map Prod.fst).Nodup)
      (hfields : ∀ field ∈ fields, Node.Keyed field.2) : Node.Keyed (.table origin fields)
  | array {finished : List Value} {fields : List (String × Node)}
      (hfinished : ∀ v ∈ finished, v.Keyed) (hkeys : (fields.map Prod.fst).Nodup)
      (hfields : ∀ field ∈ fields, Node.Keyed field.2) : Node.Keyed (.array finished fields)

/-- Each key stands once in every table of a draft. -/
structure Draft.Keyed (draft : Draft) : Prop where
  keys : (draft.map Prod.fst).Nodup
  nodes : ∀ field ∈ draft, field.2.Keyed

variable {draft changed : Draft} {path : List String} {key : String} {value : Value} {part : Nat}

/-! ### Drafts -/

theorem fieldValues_eq_map (draft : Draft) :
    Node.fieldValues draft = draft.map fun field => (field.1, field.2.value) := by
  induction draft with
  | nil => rfl
  | cons field rest ih => rw [Node.fieldValues, ih, List.map_cons]

theorem keyed_fieldValues (hkeys : (draft.map Prod.fst).Nodup)
    (hvalues : ∀ field ∈ draft, field.2.value.Keyed) :
    Table.Keyed (Node.fieldValues draft) := by
  rw [fieldValues_eq_map]
  refine .table ?_ ?_
  · rw [Table.keys, List.map_map]
    exact hkeys
  · intro field hfield
    obtain ⟨entry, hentry, rfl⟩ := List.mem_map.mp hfield
    exact hvalues entry hentry

theorem Node.keyed_value {node : Node} (h : node.Keyed) : node.value.Keyed := by
  induction h with
  | leaf hvalue => exact hvalue
  | table hkeys _ ih => exact keyed_fieldValues hkeys ih
  | array hfinished hkeys _ ih =>
    refine .list ?_
    intro item hitem
    rcases List.mem_append.mp hitem with hitem | hitem
    · exact hfinished item hitem
    · rw [List.mem_singleton.mp hitem]
      exact keyed_fieldValues hkeys ih

namespace Draft

theorem Keyed.nil : Keyed [] := ⟨List.nodup_nil, nofun⟩

theorem Keyed.values (h : draft.Keyed) : Table.Keyed draft.values :=
  keyed_fieldValues h.keys fun field hfield => Node.keyed_value (h.nodes field hfield)

theorem mem_keys_of_update {change : Option Node → Option Node} {other : String}
    (h : draft.update key change = some changed) (hmem : other ∈ changed.map Prod.fst) :
    other ∈ draft.map Prod.fst ∨ other = key := by
  induction draft generalizing changed with
  | nil =>
    obtain ⟨node, -, rfl⟩ := Option.map_eq_some_iff.mp h
    exact .inr (List.mem_singleton.mp hmem)
  | cons field rest ih =>
    rw [update] at h
    split at h
    · obtain ⟨node, -, rfl⟩ := Option.map_eq_some_iff.mp h
      exact .inl hmem
    · obtain ⟨later, hlater, rfl⟩ := Option.map_eq_some_iff.mp h
      rcases List.mem_cons.mp hmem with rfl | hmem
      · exact .inl List.mem_cons_self
      · exact (ih hlater hmem).imp_left (List.mem_cons_of_mem _)

theorem Keyed.update {change : Option Node → Option Node} (hdraft : draft.Keyed)
    (hchange : ∀ former node, (∀ n ∈ former, n.Keyed) → change former = some node → node.Keyed)
    (h : draft.update key change = some changed) : changed.Keyed := by
  induction draft generalizing changed with
  | nil =>
    obtain ⟨node, hnode, rfl⟩ := Option.map_eq_some_iff.mp h
    refine ⟨List.nodup_singleton _, fun field hfield => ?_⟩
    rw [List.mem_singleton.mp hfield]
    exact hchange none node nofun hnode
  | cons field rest ih =>
    obtain ⟨hnew, hrest⟩ := List.nodup_cons.mp hdraft.keys
    have hfirst := hdraft.nodes field List.mem_cons_self
    have hlater : Keyed rest := ⟨hrest, fun f hf => hdraft.nodes f (List.mem_cons_of_mem _ hf)⟩
    rw [Draft.update] at h
    split at h
    · obtain ⟨node, hnode, rfl⟩ := Option.map_eq_some_iff.mp h
      refine ⟨hdraft.keys, fun f hf => ?_⟩
      rcases List.mem_cons.mp hf with rfl | hf
      · refine hchange _ node ?_ hnode
        intro n hn
        cases hn
        exact hfirst
      · exact hlater.nodes f hf
    · next hother =>
      obtain ⟨later, hupdate, rfl⟩ := Option.map_eq_some_iff.mp h
      have hkeyed := ih hlater hupdate
      refine ⟨List.nodup_cons.mpr ⟨fun hmem => ?_, hkeyed.keys⟩, fun f hf => ?_⟩
      · rcases mem_keys_of_update hupdate hmem with hmem | hmem
        · exact hnew hmem
        · exact hother hmem
      · rcases List.mem_cons.mp hf with rfl | hf
        · exact hfirst
        · exact hkeyed.nodes f hf

/-- A change after which each key still stands once. -/
def Preserves (change : Draft → Option Draft) : Prop :=
  ∀ draft changed : Draft, draft.Keyed → change draft = some changed → changed.Keyed

theorem preserves_within {change : Draft → Option Draft} (hchange : Preserves change)
    (path : List String) : Preserves (within change path) := by
  induction path with
  | nil => exact hchange
  | cons key path ih =>
    intro draft changed hdraft h
    refine hdraft.update ?_ h
    intro former node hformer hnode
    match former with
    | none =>
      obtain ⟨fields, hfields, rfl⟩ := Option.map_eq_some_iff.mp hnode
      have hkeyed := ih [] fields .nil hfields
      exact .table hkeyed.keys hkeyed.nodes
    | some (.leaf v) => cases hnode
    | some (.table origin fields) =>
      obtain ⟨after, hafter, rfl⟩ := Option.map_eq_some_iff.mp hnode
      obtain - | ⟨hkeys, hfields⟩ := hformer _ rfl
      have hkeyed := ih fields after ⟨hkeys, hfields⟩ hafter
      exact .table hkeyed.keys hkeyed.nodes
    | some (.array finished fields) =>
      obtain ⟨after, hafter, rfl⟩ := Option.map_eq_some_iff.mp hnode
      obtain - | - | ⟨hfinished, hkeys, hfields⟩ := hformer _ rfl
      have hkeyed := ih fields after ⟨hkeys, hfields⟩ hafter
      exact .array hfinished hkeyed.keys hkeyed.nodes

theorem preserves_assign (part : Nat) (hvalue : value.Keyed) (path : List String) :
    Preserves (assign part value path) := by
  induction path with
  | nil => exact fun _ _ _ h => nomatch h
  | cons key path ih =>
    intro draft changed hdraft h
    cases path with
    | nil =>
      refine hdraft.update ?_ h
      intro former node hformer hnode
      match former with
      | none =>
        obtain rfl := Option.some.inj hnode
        exact .leaf hvalue
      | some _ => cases hnode
    | cons next path =>
      refine hdraft.update ?_ h
      intro former node hformer hnode
      match former with
      | none =>
        obtain ⟨fields, hfields, rfl⟩ := Option.map_eq_some_iff.mp hnode
        have hkeyed := ih [] fields .nil hfields
        exact .table hkeyed.keys hkeyed.nodes
      | some (.table origin fields) =>
        dsimp only at hnode
        split at hnode
        · obtain ⟨after, hafter, rfl⟩ := Option.map_eq_some_iff.mp hnode
          obtain - | ⟨hkeys, hfields⟩ := hformer _ rfl
          have hkeyed := ih fields after ⟨hkeys, hfields⟩ hafter
          exact .table hkeyed.keys hkeyed.nodes
        · cases hnode
      | some (.leaf _) => cases hnode
      | some (.array _ _) => cases hnode

theorem preserves_declareHere (key : String) : Preserves (declareHere key) := by
  intro draft changed hdraft h
  refine hdraft.update ?_ h
  intro former node hformer hnode
  match former with
  | none =>
    obtain rfl := Option.some.inj hnode
    exact .table List.nodup_nil nofun
  | some (.table .implied fields) =>
    obtain rfl := Option.some.inj hnode
    obtain - | ⟨hkeys, hfields⟩ := hformer _ rfl
    exact .table hkeys hfields
  | some (.table (.dotted _) _) => cases hnode
  | some (.table .declared _) => cases hnode
  | some (.leaf _) => cases hnode
  | some (.array _ _) => cases hnode

theorem preserves_appendHere (key : String) : Preserves (appendHere key) := by
  intro draft changed hdraft h
  refine hdraft.update ?_ h
  intro former node hformer hnode
  match former with
  | none =>
    obtain rfl := Option.some.inj hnode
    exact .array nofun List.nodup_nil nofun
  | some (.array finished fields) =>
    obtain rfl := Option.some.inj hnode
    obtain - | - | ⟨hfinished, hkeys, hfields⟩ := hformer _ rfl
    refine .array ?_ List.nodup_nil nofun
    intro v hv
    rcases List.mem_append.mp hv with hv | hv
    · exact hfinished v hv
    · rw [List.mem_singleton.mp hv]
      exact Keyed.values ⟨hkeys, hfields⟩
  | some (.leaf _) => cases hnode
  | some (.table _ _) => cases hnode

theorem preserves_atLast {change : String → Draft → Option Draft}
    (hchange : ∀ key, Preserves (change key)) (path : List String) :
    Preserves (atLast change path) := by
  intro draft changed hdraft h
  unfold atLast at h
  split at h
  · cases h
  · exact preserves_within (hchange _) _ _ _ hdraft h

end Draft

/-! ### Values -/

theorem scalar_of_readDecimal {cs : List Char} {v : Value} {rest : List Char}
    (h : readDecimal cs = some (.ok (v, rest))) : v.canBeKey = true := by
  unfold readDecimal at h
  obtain ⟨⟨whole, after⟩, -, h⟩ := Option.bind_eq_some_iff.mp h
  dsimp only at h
  split at h
  · split at h
    · cases h
      rfl
    · cases h
  · cases h
    rfl

theorem scalar_of_readNumber {cs : List Char} {v : Value} {rest : List Char}
    (h : readNumber cs = some (.ok (v, rest))) : v.canBeKey = true := by
  unfold readNumber at h
  split at h
  · cases h
    rfl
  · split at h
    · next hdecimal =>
      cases h
      exact scalar_of_readDecimal hdecimal
    · obtain ⟨⟨v', rest'⟩, hspecial, h⟩ := Option.map_eq_some_iff.mp h
      cases h
      unfold readSpecial at hspecial
      dsimp only at hspecial
      split at hspecial
      · cases hspecial
        rfl
      · cases hspecial
        rfl
      · cases hspecial

theorem scalar_of_readScalar {cs : List Char} {v : Value} {rest : List Char}
    (h : readScalar cs = .ok (v, rest)) : v.canBeKey = true := by
  unfold readScalar at h
  split at h
  · obtain ⟨⟨text, after⟩, -, h⟩ := bind_eq_ok_iff.mp h
    cases h
    rfl
  · split at h
    · cases h
      rfl
    · cases h
      rfl
    · split at h
      · split at h
        · cases h
          rfl
        · cases h
      · cases hnumber : readNumber cs with
        | none =>
          rw [hnumber] at h
          cases h
        | some reading =>
          rw [hnumber] at h
          obtain rfl : reading = .ok (v, rest) := h
          exact scalar_of_readNumber hnumber

/-- What holds of the values that are read with some fuel. -/
structure ReadsKeyed (fuel : Nat) : Prop where
  value : ∀ room cs v rest, readValue fuel room cs = .ok (v, rest) → v.Keyed
  items : ∀ room cs items rest, readItems fuel room cs = .ok (items, rest) →
    ∀ item ∈ items, item.Keyed
  entries : ∀ room draft cs after rest, draft.Keyed →
    readEntries fuel room draft cs = .ok (after, rest) → after.Keyed

theorem readsKeyed_zero : ReadsKeyed 0 where
  value _ _ _ _ h := nomatch h
  items _ _ _ _ h := nomatch h
  entries _ _ _ _ _ _ h := nomatch h

theorem readsKeyed_succ {fuel : Nat} (ih : ReadsKeyed fuel) : ReadsKeyed (fuel + 1) where
  value room cs v rest h := by
    unfold readValue at h
    split at h
    · obtain ⟨room, -, h⟩ := bind_eq_ok_iff.mp h
      obtain ⟨cs, -, h⟩ := bind_eq_ok_iff.mp h
      split at h
      · cases h
        exact .list nofun
      · obtain ⟨⟨items, after⟩, hitems, h⟩ := bind_eq_ok_iff.mp h
        cases h
        exact .list (ih.items _ _ _ _ hitems)
    · obtain ⟨room, -, h⟩ := bind_eq_ok_iff.mp h
      split at h
      · cases h
        exact Table.Keyed.nil
      · obtain ⟨⟨draft, after⟩, hentries, h⟩ := bind_eq_ok_iff.mp h
        cases h
        exact (ih.entries _ _ _ _ _ .nil hentries).values
    · exact .scalar (scalar_of_readScalar h)
  items room cs items rest h := by
    unfold readItems at h
    obtain ⟨⟨item, cs⟩, hitem, h⟩ := bind_eq_ok_iff.mp h
    have hkeyed := ih.value _ _ _ _ hitem
    obtain ⟨cs, -, h⟩ := bind_eq_ok_iff.mp h
    split at h
    · cases h
      simpa using hkeyed
    · obtain ⟨cs, -, h⟩ := bind_eq_ok_iff.mp h
      split at h
      · cases h
        simpa using hkeyed
      · obtain ⟨⟨more, after⟩, hmore, h⟩ := bind_eq_ok_iff.mp h
        cases h
        exact List.forall_mem_cons.mpr ⟨hkeyed, ih.items _ _ _ _ hmore⟩
    · cases h
  entries room draft cs after rest hdraft h := by
    unfold readEntries at h
    obtain ⟨⟨key, cs⟩, -, h⟩ := bind_eq_ok_iff.mp h
    obtain ⟨⟨v, cs⟩, hvalue, h⟩ := bind_eq_ok_iff.mp h
    dsimp only at h
    split at h
    · cases h
    · next changed hassign =>
      have hchanged :=
        Draft.preserves_assign 0 (ih.value _ _ _ _ hvalue) key draft changed hdraft hassign
      split at h
      · cases h
        exact hchanged
      · exact ih.entries _ _ _ _ _ hchanged h
      · cases h

theorem readsKeyed (fuel : Nat) : ReadsKeyed fuel := by
  induction fuel with
  | zero => exact readsKeyed_zero
  | succ fuel ih => exact readsKeyed_succ ih

/-! ### Documents -/

theorem eq_some_of_accepted {α : Type} {change : Option α} {a : α} (h : accepted change = .ok a) :
    change = some a := by
  cases change with
  | none => cases h
  | some b => exact congrArg some (Except.ok.inj h)

theorem keyed_of_readStatement {progress after : Progress} {cs rest : List Char}
    (hprogress : progress.draft.Keyed) (h : readStatement progress cs = .ok (after, rest)) :
    after.draft.Keyed := by
  unfold readStatement at h
  split at h
  · obtain ⟨⟨key, cs⟩, -, h⟩ := bind_eq_ok_iff.mp h
    obtain ⟨draft, hdraft, h⟩ := bind_eq_ok_iff.mp h
    cases h
    exact Draft.preserves_atLast Draft.preserves_appendHere key _ _ hprogress
      (eq_some_of_accepted hdraft)
  · obtain ⟨⟨key, cs⟩, -, h⟩ := bind_eq_ok_iff.mp h
    obtain ⟨draft, hdraft, h⟩ := bind_eq_ok_iff.mp h
    cases h
    exact Draft.preserves_atLast Draft.preserves_declareHere key _ _ hprogress
      (eq_some_of_accepted hdraft)
  · obtain ⟨⟨key, cs⟩, -, h⟩ := bind_eq_ok_iff.mp h
    obtain ⟨⟨v, cs⟩, hvalue, h⟩ := bind_eq_ok_iff.mp h
    obtain ⟨draft, hdraft, h⟩ := bind_eq_ok_iff.mp h
    cases h
    have hassign := Draft.preserves_assign progress.part ((readsKeyed _).value _ _ _ _ hvalue) key
    exact Draft.preserves_within hassign progress.header _ _ hprogress
      (eq_some_of_accepted hdraft)

/-- Whatever stood on a line, the end of it and the later lines come next. -/
theorem keyed_of_lineEnd {fuel : Nat} {draft : Draft} (after : Progress) (cs : List Char)
    (hafter : after.draft.Keyed)
    (hlater : ∀ rest, readLines fuel after rest = .ok draft → draft.Keyed)
    (h : (skipComment (skipBlanks cs) >>= fun cs =>
      match cs with
      | [] => pure after.draft
      | '\n' :: rest => readLines fuel after rest
      | _ => throw .malformed) = .ok draft) : draft.Keyed := by
  obtain ⟨cs, -, h⟩ := bind_eq_ok_iff.mp h
  split at h
  · cases h
    exact hafter
  · exact hlater _ h
  · cases h

theorem keyed_of_readLines {fuel : Nat} {progress : Progress} {cs : List Char} {draft : Draft}
    (hprogress : progress.draft.Keyed) (h : readLines fuel progress cs = .ok draft) :
    draft.Keyed := by
  induction fuel generalizing progress cs with
  | zero =>
    cases h
    exact hprogress
  | succ fuel ih =>
    unfold readLines at h
    dsimp only at h
    split at h
    · exact keyed_of_lineEnd progress [] hprogress (fun _ => ih hprogress) h
    · split at h
      · exact keyed_of_lineEnd progress _ hprogress (fun _ => ih hprogress) h
      · obtain ⟨⟨after, cs⟩, hstatement, h⟩ := bind_eq_ok_iff.mp h
        have hafter := keyed_of_readStatement hprogress hstatement
        exact keyed_of_lineEnd after cs hafter (fun _ => ih hafter) h

/-- **Tables that are read** have each key once. -/
theorem keyed_of_read {bytes : ByteArray} {table : Table} (h : read bytes = .ok table) :
    table.Keyed := by
  unfold read at h
  split at h
  · obtain ⟨draft, hdraft, h⟩ := bind_eq_ok_iff.mp h
    cases h
    exact (keyed_of_readLines .nil hdraft).values
  · cases h

end Toml

end DropletReconciler
