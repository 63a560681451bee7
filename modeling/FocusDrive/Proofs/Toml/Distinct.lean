import FocusDrive.Proofs.Toml.Reader
import FocusDrive.Toml.Document

/-!
# The parser is a lawful reader

The tables that the parser makes do not repeat a key, at any depth (`distinct_read?`), and it passes
over a table or an array if it does so over everything in it. So the parser keeps to the laws that
configurations rely on.

The proof that keys are distinct follows the stages of the parser backwards. `Entries.put` is the
only way an entry gets into a tree, and it replaces the entry that has the key. Everything else that
changes a tree does so at the end of a path, so it is enough that the change itself keeps keys
distinct (`Entries.preserves_descend`). Values come into the tree complete; that their own keys are
distinct is shown of the scanners, by induction on the depth that is left.
-/

namespace FocusDrive.Toml

/-! ### Values and trees without repeated keys -/

/-- No table in the node repeats a key. -/
inductive Node.Distinct : Node → Prop
  | value {v : Value} (h : v.Distinct) : Distinct (.value v)
  | table {origin : Origin} {entries : Entries} (keys : (entries.map Prod.fst).Nodup)
      (h : ∀ entry ∈ entries, Distinct entry.2) : Distinct (.table origin entries)
  | tables {complete : List Value} {last : Entries} (hcomplete : ∀ v ∈ complete, v.Distinct)
      (keys : (last.map Prod.fst).Nodup) (h : ∀ entry ∈ last, Distinct entry.2) :
      Distinct (.tables complete last)

theorem entriesToValues_eq_map (t : Entries) :
    entriesToValues t = t.map fun (key, node) ↦ (key, node.toValue) := by
  induction t with
  | nil => rw [entriesToValues, List.map_nil]
  | cons entry rest ih => rw [entriesToValues, List.map_cons, ih]

theorem map_fst_entriesToValues (t : Entries) :
    (entriesToValues t).map Prod.fst = t.map Prod.fst := by
  rw [entriesToValues_eq_map, List.map_map]
  rfl

/-- Completion of a table keeps keys distinct if completion of what is in it does. -/
theorem Value.Distinct.entriesToValues {t : Entries} (keys : (t.map Prod.fst).Nodup)
    (h : ∀ entry ∈ t, entry.2.toValue.Distinct) : (Value.table (entriesToValues t)).Distinct := by
  refine .table (by rwa [map_fst_entriesToValues]) fun entry hentry ↦ ?_
  rw [entriesToValues_eq_map] at hentry
  obtain ⟨source, hsource, rfl⟩ := List.mem_map.mp hentry
  exact h source hsource

/-- What a node stands for has distinct keys if the node has. -/
theorem Node.Distinct.toValue {node : Node} (h : node.Distinct) : node.toValue.Distinct := by
  induction h with
  | value h =>
    rw [Node.toValue]
    exact h
  | table keys _ ih =>
    rw [Node.toValue]
    exact .entriesToValues keys ih
  | tables hcomplete keys _ ih =>
    rw [Node.toValue]
    refine .array fun v hv ↦ ?_
    rcases List.mem_append.mp hv with hv | hv
    · exact hcomplete v hv
    · rw [List.mem_singleton.mp hv]
      exact .entriesToValues keys ih

namespace Entries

/-- No table in the tree repeats a key. -/
structure Distinct (t : Entries) : Prop where
  /-- The table itself does not. -/
  keys : (t.map Prod.fst).Nodup
  /-- No table in it does. -/
  nodes : ∀ entry ∈ t, entry.2.Distinct

variable {t : Entries} {key : String} {node : Node}

theorem distinct_nil : Distinct [] := ⟨List.nodup_nil, by simp⟩

theorem Distinct.toTable (h : t.Distinct) : t.toTable.Distinct :=
  .entriesToValues h.keys fun entry hentry ↦ (h.nodes entry hentry).toValue

theorem Distinct.of_lookup (h : t.Distinct) (hlookup : t.lookup key = some node) : node.Distinct :=
  h.nodes _ (mem_of_lookup hlookup)

/-! ### Changes -/

/-- An entry behind a change is the changed one or was there before. -/
theorem mem_put {entry : String × Node} (h : entry ∈ t.put key node) :
    entry = (key, node) ∨ entry ∈ t := by
  induction t with
  | nil => exact .inl (List.mem_singleton.mp h)
  | cons first rest ih =>
    rw [put] at h
    split at h
    · exact (List.mem_cons.mp h).imp id (List.mem_cons_of_mem _)
    · rcases List.mem_cons.mp h with rfl | h
      · exact .inr List.mem_cons_self
      · exact (ih h).imp id (List.mem_cons_of_mem _)

/-- A key that is there is replaced and not added again. -/
theorem nodup_put (h : (t.map Prod.fst).Nodup) : ((t.put key node).map Prod.fst).Nodup := by
  induction t with
  | nil => exact List.nodup_singleton key
  | cons first rest ih =>
    obtain ⟨hfirst, hrest⟩ := List.nodup_cons.mp h
    rw [put]
    split
    case isTrue hkey => exact List.nodup_cons.mpr ⟨hkey ▸ hfirst, hrest⟩
    case isFalse hkey =>
      -- The key that was put is not the first one, and the others were distinct from it before.
      refine List.nodup_cons.mpr ⟨fun hmem ↦ ?_, ih hrest⟩
      obtain ⟨entry, hentry, hname⟩ := List.mem_map.mp hmem
      rcases mem_put hentry with rfl | hentry
      · exact hkey hname.symm
      · exact hfirst (hname ▸ List.mem_map_of_mem hentry)

theorem Distinct.put (h : t.Distinct) (hnode : node.Distinct) : (t.put key node).Distinct := by
  refine ⟨nodup_put h.keys, fun entry hentry ↦ ?_⟩
  rcases mem_put hentry with rfl | hentry
  · exact hnode
  · exact h.nodes entry hentry

/-- A change that does not lead out of the trees without repeated keys. -/
def Preserves (change : Entries → Option Entries) : Prop :=
  ∀ ⦃t t' : Entries⦄, t.Distinct → change t = some t' → t'.Distinct

/-- A change below one key keeps the keys distinct. -/
theorem preserves_descend {change : Entries → Option Entries} (h : Preserves change)
    (origin : Origin) (may : Origin → Bool) (key : String) :
    Preserves (descend origin may change key) := by
  intro t t' ht hchange
  -- Whatever stands under the key, `change` gets the entries of one table, and the table that comes
  -- back takes the place of that one.
  rw [descend] at hchange
  split at hchange
  case h_1 =>
    obtain ⟨entries, hentries, rfl⟩ := Option.map_eq_some_iff.mp hchange
    have hnew := h distinct_nil hentries
    exact ht.put (.table hnew.keys hnew.nodes)
  case h_2 found entries hlookup =>
    split at hchange
    case isTrue =>
      obtain ⟨entries', hentries, rfl⟩ := Option.map_eq_some_iff.mp hchange
      cases ht.of_lookup hlookup with
      | table keys nodes =>
        have hnew := h ⟨keys, nodes⟩ hentries
        exact ht.put (.table hnew.keys hnew.nodes)
    case isFalse => contradiction
  case h_3 complete last hlookup =>
    split at hchange
    case isTrue =>
      obtain ⟨last', hlast, rfl⟩ := Option.map_eq_some_iff.mp hchange
      cases ht.of_lookup hlookup with
      | tables hcomplete keys nodes =>
        have hnew := h ⟨keys, nodes⟩ hlast
        exact ht.put (.tables hcomplete hnew.keys hnew.nodes)
    case isFalse => contradiction
  case h_4 => contradiction

/-- An assignment to a path keeps the keys distinct, by induction on the path. -/
theorem preserves_assign {v : Value} (hv : v.Distinct) (key : String) (path : List String) :
    Preserves (assign key v path) := by
  induction path with
  | nil =>
    intro t t' ht hchange
    rw [assign] at hchange
    split at hchange
    · contradiction
    · obtain rfl := Option.some.inj hchange
      exact ht.put (.value hv)
  | cons first rest ih => exact preserves_descend ih _ _ first

theorem preserves_openTable (key : String) (path : List String) :
    Preserves (openTable key path) := by
  induction path with
  | nil =>
    intro t t' ht hchange
    rw [openTable] at hchange
    split at hchange
    case h_1 =>
      obtain rfl := Option.some.inj hchange
      exact ht.put (.table List.nodup_nil (by simp))
    case h_2 entries hlookup =>
      obtain rfl := Option.some.inj hchange
      cases ht.of_lookup hlookup with
      | table keys nodes => exact ht.put (.table keys nodes)
    case h_3 => contradiction
  | cons first rest ih => exact preserves_descend ih _ _ first

theorem preserves_openElement (key : String) (path : List String) :
    Preserves (openElement key path) := by
  induction path with
  | nil =>
    intro t t' ht hchange
    rw [openElement] at hchange
    split at hchange
    case h_1 =>
      obtain rfl := Option.some.inj hchange
      exact ht.put (.tables (by simp) List.nodup_nil (by simp))
    case h_2 complete last hlookup =>
      obtain rfl := Option.some.inj hchange
      cases ht.of_lookup hlookup with
      | tables hcomplete keys nodes =>
        refine ht.put (.tables (fun v hv ↦ ?_) List.nodup_nil (by simp))
        rcases List.mem_append.mp hv with hv | hv
        · exact hcomplete v hv
        · rw [List.mem_singleton.mp hv]
          exact Distinct.toTable ⟨keys, nodes⟩
    case h_3 => contradiction
  | cons first rest ih => exact preserves_descend ih _ _ first

/-- A change below a path keeps the keys distinct, by induction on the path. -/
theorem preserves_within {change : Entries → Option Entries} (h : Preserves change)
    (path : List String) : Preserves (within change path) := by
  induction path with
  | nil => exact h
  | cons first rest ih => exact preserves_descend ih _ _ first

end Entries

/-! ### Scanners -/

/-- A bare word has no keys. -/
theorem Value.distinct_ofWord? {w : List Char} {v : Value} (h : Value.ofWord? w = some v) :
    v.Distinct := by
  rw [Value.ofWord?] at h
  split at h
  · cases h; exact .boolean true
  split at h
  · cases h; exact .boolean false
  split at h
  · cases h; exact .datetime _
  split at h
  · cases h; exact .float _
  · obtain ⟨n, -, rfl⟩ := Option.map_eq_some_iff.mp h
    exact .integer n

/-- What the scanner recognises has the property. -/
def Scanner.Yields {α : Type} (scan : Scanner α) (P : α → Prop) : Prop :=
  ∀ ⦃s : List Char⦄ ⦃a : α⦄ ⦃rest : List Char⦄, scan s = some (a, rest) → P a

namespace Scanner.Yields

variable {item : Scanner Value}

theorem assignment (h : item.Yields Value.Distinct) :
    (assignment item).Yields fun (_, v) ↦ v.Distinct := by
  intro s a rest hscan
  rw [Toml.assignment] at hscan
  split at hscan
  · obtain ⟨⟨v, r⟩, hitem, heq⟩ := Option.map_eq_some_iff.mp hscan
    cases heq
    exact h hitem
  · contradiction

theorem arrayItems (h : item.Yields Value.Distinct) :
    (arrayItems item).Yields fun items ↦ ∀ v ∈ items, v.Distinct := by
  intro s items rest hscan
  fun_induction Toml.arrayItems item s generalizing items rest with
  | case1 => contradiction
  | case2 => cases hscan; simp
  | case3 => contradiction
  | case4 s start _ _ v r hitem r' _ =>
    cases hscan
    simpa using h hitem
  | case5 s start _ _ v r hitem more _ _ ih =>
    obtain ⟨⟨vs, r⟩, hmore, heq⟩ := Option.map_eq_some_iff.mp hscan
    cases heq
    exact List.forall_mem_cons.mpr ⟨h hitem, ih hmore⟩
  | case6 => contradiction
  | case7 => contradiction

theorem inlineEntries (h : item.Yields Value.Distinct) {t : Entries} (ht : t.Distinct) :
    (inlineEntries item t).Yields Entries.Distinct := by
  intro s t' rest hscan
  fun_induction Toml.inlineEntries item t s generalizing t' rest with
  | case1 => contradiction
  | case2 => contradiction
  | case3 t s k v r hassign u hput r' _ =>
    cases hscan
    exact Entries.preserves_assign (h.assignment hassign) k.last k.path ht hput
  | case4 t s k v r hassign u hput more _ _ ih =>
    exact ih (Entries.preserves_assign (h.assignment hassign) k.last k.path ht hput) hscan
  | case5 => contradiction
  | case6 => contradiction

theorem inlineTable (h : item.Yields Value.Distinct) :
    (inlineTable item).Yields Value.Distinct := by
  intro s v rest hscan
  rw [Toml.inlineTable] at hscan
  split at hscan
  · cases hscan
    exact .table List.nodup_nil (by simp)
  · obtain ⟨⟨t, r⟩, hentries, heq⟩ := Option.map_eq_some_iff.mp hscan
    cases heq
    exact (h.inlineEntries Entries.distinct_nil hentries).toTable

theorem unquoted : unquoted.Yields Value.Distinct := by
  intro s v rest hscan
  -- All ways lead to one word, which may consist of a date and a time.
  have hword {w : List Char} {r : List Char}
      (h : (Value.ofWord? w).map (·, r) = some (v, rest)) : v.Distinct := by
    obtain ⟨u, hu, heq⟩ := Option.map_eq_some_iff.mp h
    cases heq
    exact Value.distinct_ofWord? hu
  rw [Toml.unquoted] at hscan
  dsimp only at hscan
  split at hscan
  · split at hscan
    · exact hword hscan
    · exact hword hscan
  · exact hword hscan

/-- By induction on the depth: the scanners of one level need the property only of those that are
one level deeper. -/
theorem value (depth : Nat) : (value depth).Yields Value.Distinct := by
  have hquoted {s : List Char} {v : Value} {rest : List Char}
      (h : (quotedString s).map (Prod.map Value.string id) = some (v, rest)) : v.Distinct := by
    obtain ⟨⟨text, r⟩, -, heq⟩ := Option.map_eq_some_iff.mp h
    cases heq
    exact .string text
  induction depth with
  | zero =>
    intro s v rest hscan
    rw [Toml.value.eq_def] at hscan
    dsimp only at hscan
    split at hscan
    · exact hquoted hscan
    · exact hquoted hscan
    · contradiction
    · contradiction
    · exact unquoted hscan
  | succ depth ih =>
    intro s v rest hscan
    rw [Toml.value.eq_def] at hscan
    dsimp only at hscan
    split at hscan
    · exact hquoted hscan
    · exact hquoted hscan
    · obtain ⟨⟨vs, r⟩, hitems, heq⟩ := Option.map_eq_some_iff.mp hscan
      cases heq
      exact .array (ih.arrayItems hitems)
    · exact ih.inlineTable hscan
    · exact unquoted hscan

end Scanner.Yields

/-! ### Documents -/

/-- The value in the statement, if there is one, does not repeat a key. -/
def Statement.Distinct : Statement → Prop
  | .assignment _ v => v.Distinct
  | .table _ | .element _ => True

/-- Every statement of a document has distinct keys. -/
theorem Scanner.Yields.statement : statement.Yields Statement.Distinct := by
  intro s a rest hscan
  rw [Toml.statement.eq_def] at hscan
  split at hscan
  · split at hscan
    · cases hscan
      trivial
    · contradiction
  · split at hscan
    · cases hscan
      trivial
    · contradiction
  · obtain ⟨⟨⟨k, v⟩, r⟩, hassign, heq⟩ := Option.map_eq_some_iff.mp hscan
    cases heq
    exact (Scanner.Yields.value depthLimit).assignment hassign

theorem distinct_statements? {s : List Char} {ss : List Statement} (h : statements? s = some ss) :
    ∀ a ∈ ss, a.Distinct := by
  fun_induction statements? s generalizing ss with
  | case1 => contradiction
  | case2 => cases h; simp
  | case3 => contradiction
  | case4 => contradiction
  | case5 s start _ _ first rest hfirst more _ _ ih =>
    obtain ⟨others, hothers, rfl⟩ := Option.map_eq_some_iff.mp h
    exact List.forall_mem_cons.mpr ⟨Scanner.Yields.statement hfirst, ih hothers⟩
  | case6 => contradiction

/-- A statement keeps the keys of the document distinct. -/
theorem Document.distinct_apply {d d' : Document} {a : Statement} (ha : a.Distinct)
    (hd : d.root.Distinct) (h : d.apply a = some d') : d'.root.Distinct := by
  cases a with
  | table k =>
    obtain ⟨root, hroot, rfl⟩ := Option.map_eq_some_iff.mp h
    exact Entries.preserves_openTable k.last k.path hd hroot
  | element k =>
    obtain ⟨root, hroot, rfl⟩ := Option.map_eq_some_iff.mp h
    exact Entries.preserves_openElement k.last k.path hd hroot
  | assignment k v =>
    obtain ⟨root, hroot, rfl⟩ := Option.map_eq_some_iff.mp h
    exact Entries.preserves_within (Entries.preserves_assign ha k.last k.path) d.current hd hroot

/-- All statements together keep the keys distinct, by induction on them. -/
theorem Document.distinct_foldlM {ss : List Statement} (hss : ∀ a ∈ ss, a.Distinct)
    {d d' : Document} (hd : d.root.Distinct) (h : ss.foldlM Document.apply d = some d') :
    d'.root.Distinct := by
  induction ss generalizing d with
  | nil => exact Option.some.inj h ▸ hd
  | cons a ss ih =>
    obtain ⟨ha, hss⟩ := List.forall_mem_cons.mp hss
    rw [List.foldlM_cons] at h
    obtain ⟨mid, hmid, hrest⟩ := Option.bind_eq_some_iff.mp h
    exact ih hss (Document.distinct_apply ha hd hmid) hrest

/-- What the parser reads is a table, and no table in it repeats a key. -/
theorem distinct_read? {text : String} {v : Value} (h : read? text = some v) :
    (∃ entries, v = .table entries) ∧ v.Distinct := by
  obtain ⟨ss, hss, hbuild⟩ := Option.bind_eq_some_iff.mp h
  obtain ⟨d, hd, rfl⟩ := Option.map_eq_some_iff.mp hbuild
  have hroot := Document.distinct_foldlM (distinct_statements? hss) Entries.distinct_nil hd
  exact ⟨⟨_, rfl⟩, hroot.toTable⟩

/-- The parser keeps to the laws. -/
instance : LawfulReader where
  isTable h := (distinct_read? h).1
  distinct h := (distinct_read? h).2
  skips_string s := show (Value.string s).inRange = true by simp only [Value.inRange]
  skips_boolean b := show (Value.boolean b).inRange = true by simp only [Value.inRange]
  skips_datetime d := show (Value.datetime d).inRange = true by simp only [Value.inRange]
  skips_array items := by
    show (Value.array items).inRange = items.all Value.inRange
    rw [Value.inRange, itemsInRange_eq_all]
  skips_table entries := by
    show (Value.table entries).inRange = entries.all fun e ↦ e.2.inRange
    rw [Value.inRange, entriesInRange_eq_all]

end FocusDrive.Toml
