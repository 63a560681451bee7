import FocusDrive.Proofs.Toml.Reader

/-!
# The order of the entries

Two documents may say the same and differ in the order in which they say it. `Value.Reordered` is
this relation on their trees: entries are moved about within a table, at any depth. The items of an
array stay where they are.

If no key is repeated, such trees look alike to a reader who asks for keys. What stands under a key
in one of them stands there in the other one too, reordered in turn (`Reordered.get?`), and what is
no table and no array is not changed at all (`Reordered.eq_or_collections`).
-/

namespace FocusDrive.Toml.Value

/-! ### What stands under a key -/

/-- The entries of a table. -/
def entries : Value → List (String × Value)
  | .table entries => entries
  | _ => []

/-- What a table has under a key. -/
def get? (v : Value) (key : String) : Option Value := v.entries.lookup key

/-- What the table under the first key has under the second one. -/
def at? (v : Value) (first key : String) : Option Value := (v.get? first).bind (·.get? key)

variable {v w x : Value} {key : String}

theorem Distinct.nodup_entries (h : v.Distinct) : (v.entries.map Prod.fst).Nodup := by
  cases h with
  | table keys _ => exact keys
  | _ => exact List.nodup_nil

/-- What is found in a value has distinct keys as well. -/
theorem Distinct.get? (h : v.Distinct) (hx : v.get? key = some x) : x.Distinct := by
  cases h with
  | table _ h => exact h _ (mem_of_lookup hx)
  | _ => contradiction

/-! ### Reordering -/

/-- The trees differ in the order of entries only. -/
inductive Reordered : Value → Value → Prop
  | refl (v : Value) : Reordered v v
  | trans {u v w : Value} (huv : Reordered u v) (hvw : Reordered v w) : Reordered u w
  /-- The entries of a table are moved about. -/
  | perm {es fs : List (String × Value)} (h : es.Perm fs) : Reordered (.table es) (.table fs)
  /-- One value in a table is reordered. -/
  | entry (before after : List (String × Value)) (key : String) {v w : Value}
      (h : Reordered v w) :
      Reordered (.table (before ++ (key, v) :: after)) (.table (before ++ (key, w) :: after))
  /-- One item of an array is reordered. -/
  | item (before after : List Value) {v w : Value} (h : Reordered v w) :
      Reordered (.array (before ++ v :: after)) (.array (before ++ w :: after))

namespace Reordered

/-- The order may be changed back. -/
theorem symm (h : v.Reordered w) : w.Reordered v := by
  induction h with
  | refl v => exact .refl v
  | trans _ _ ihuv ihvw => exact ihvw.trans ihuv
  | perm h => exact .perm h.symm
  | entry before after key _ ih => exact .entry before after key ih
  | item before after _ ih => exact .item before after ih

/-- Nothing but the inside of tables and arrays is changed. -/
theorem eq_or_collections (h : v.Reordered w) :
    v = w ∨ (∃ es fs, v = .table es ∧ w = .table fs) ∨ ∃ xs ys, v = .array xs ∧ w = .array ys := by
  induction h with
  | refl => exact .inl rfl
  | perm => exact .inr (.inl ⟨_, _, rfl, rfl⟩)
  | entry => exact .inr (.inl ⟨_, _, rfl, rfl⟩)
  | item => exact .inr (.inr ⟨_, _, rfl, rfl⟩)
  | trans _ _ ihuv ihvw =>
    rcases ihuv with rfl | ⟨es, fs, rfl, rfl⟩ | ⟨xs, ys, rfl, rfl⟩
    · exact ihvw
    · rcases ihvw with rfl | ⟨_, gs, -, rfl⟩ | ⟨_, _, h, -⟩
      · exact .inr (.inl ⟨es, fs, rfl, rfl⟩)
      · exact .inr (.inl ⟨es, gs, rfl, rfl⟩)
      · contradiction
    · rcases ihvw with rfl | ⟨_, _, h, -⟩ | ⟨_, zs, -, rfl⟩
      · exact .inr (.inr ⟨xs, ys, rfl, rfl⟩)
      · contradiction
      · exact .inr (.inr ⟨xs, zs, rfl, rfl⟩)

theorem eq_string {s : String} (h : (Value.string s).Reordered w) : w = .string s := by
  rcases h.eq_or_collections with rfl | ⟨_, _, h, -⟩ | ⟨_, _, h, -⟩
  · rfl
  · contradiction
  · contradiction

theorem eq_integer {n : Int} (h : (Value.integer n).Reordered w) : w = .integer n := by
  rcases h.eq_or_collections with rfl | ⟨_, _, h, -⟩ | ⟨_, _, h, -⟩
  · rfl
  · contradiction
  · contradiction

theorem eq_table {es : List (String × Value)} (h : (Value.table es).Reordered w) :
    ∃ fs, w = .table fs := by
  rcases h.eq_or_collections with rfl | ⟨_, fs, -, rfl⟩ | ⟨_, _, h, -⟩
  · exact ⟨es, rfl⟩
  · exact ⟨fs, rfl⟩
  · contradiction

/-- Another order of the entries leaves the keys distinct. -/
theorem distinct (h : v.Reordered w) (hv : v.Distinct) : w.Distinct := by
  induction h with
  | refl => exact hv
  | trans _ _ ihuv ihvw => exact ihvw (ihuv hv)
  | perm h =>
    cases hv with
    | table keys hes =>
      exact .table ((h.map Prod.fst).nodup_iff.mp keys) fun e he ↦ hes e (h.mem_iff.mpr he)
  | entry before after key _ ih =>
    cases hv with
    | table keys hes =>
      refine .table (by simpa using keys) fun e he ↦ ?_
      rcases List.mem_append.mp he with he | he
      · exact hes e (List.mem_append_left _ he)
      rcases List.mem_cons.mp he with rfl | he
      · exact ih (hes _ (List.mem_append_right _ List.mem_cons_self))
      · exact hes e (List.mem_append_right _ (List.mem_cons_of_mem _ he))
  | item before after _ ih =>
    cases hv with
    | array hitems =>
      refine .array fun x hx ↦ ?_
      rcases List.mem_append.mp hx with hx | hx
      · exact hitems x (List.mem_append_left _ hx)
      rcases List.mem_cons.mp hx with rfl | hx
      · exact ih (hitems _ (List.mem_append_right _ List.mem_cons_self))
      · exact hitems x (List.mem_append_right _ (List.mem_cons_of_mem _ hx))

/-- No number is lost. -/
theorem hasNumber {n : Value} (h : v.Reordered w) (hn : v.HasNumber n) : w.HasNumber n := by
  induction h with
  | refl => exact hn
  | trans _ _ ihuv ihvw => exact ihvw (ihuv hn)
  | perm h =>
    cases hn with
    | entry hmem hn => exact .entry (h.mem_iff.mp hmem) hn
  | entry before after key _ ih =>
    cases hn with
    | entry hmem hn =>
      rcases List.mem_append.mp hmem with hmem | hmem
      · exact .entry (List.mem_append_left _ hmem) hn
      rcases List.mem_cons.mp hmem with heq | hmem
      · cases heq
        exact .entry (List.mem_append_right _ List.mem_cons_self) (ih hn)
      · exact .entry (List.mem_append_right _ (List.mem_cons_of_mem _ hmem)) hn
  | item before after _ ih =>
    cases hn with
    | item hmem hn =>
      rcases List.mem_append.mp hmem with hmem | hmem
      · exact .item (List.mem_append_left _ hmem) hn
      rcases List.mem_cons.mp hmem with rfl | hmem
      · exact .item (List.mem_append_right _ List.mem_cons_self) (ih hn)
      · exact .item (List.mem_append_right _ (List.mem_cons_of_mem _ hmem)) hn

/-- What stands under a key stands there after reordering, reordered in turn. -/
theorem get? (h : v.Reordered w) (hv : v.Distinct) (hx : v.get? key = some x) :
    ∃ y, w.get? key = some y ∧ x.Reordered y := by
  induction h generalizing x with
  | refl => exact ⟨x, hx, .refl x⟩
  | trans huv _ ihuv ihvw =>
    obtain ⟨y, hy, hxy⟩ := ihuv hv hx
    obtain ⟨z, hz, hyz⟩ := ihvw (huv.distinct hv) hy
    exact ⟨z, hz, hxy.trans hyz⟩
  | perm h =>
    have hw := (Reordered.perm h).distinct hv
    have hmem := (lookup_eq_some_iff_mem hv.nodup_entries).mp hx
    exact ⟨x, (lookup_eq_some_iff_mem hw.nodup_entries).mpr (h.mem_iff.mp hmem), .refl x⟩
  | entry before after k h _ =>
    have hw := (Reordered.entry before after k h).distinct hv
    have hfound {y : Value} (hmem : (key, y) ∈ before ++ (k, _) :: after) :=
      (lookup_eq_some_iff_mem hw.nodup_entries).mpr hmem
    -- The entry that is found stands before the one that is changed, is this one, or stands behind.
    rcases List.mem_append.mp ((lookup_eq_some_iff_mem hv.nodup_entries).mp hx) with hmem | hmem
    · exact ⟨x, hfound (List.mem_append_left _ hmem), .refl x⟩
    rcases List.mem_cons.mp hmem with heq | hmem
    · cases heq
      exact ⟨_, hfound (List.mem_append_right _ List.mem_cons_self), h⟩
    · exact ⟨x, hfound (List.mem_append_right _ (List.mem_cons_of_mem _ hmem)), .refl x⟩
  | item => contradiction

/-- What is found at a path is found there in any order. -/
theorem at? {first : String} (h : v.Reordered w) (hv : v.Distinct)
    (hx : v.at? first key = some x) : ∃ y, w.at? first key = some y ∧ x.Reordered y := by
  obtain ⟨s, hs, hsx⟩ := Option.bind_eq_some_iff.mp hx
  obtain ⟨t, ht, hst⟩ := h.get? hv hs
  obtain ⟨y, hy, hxy⟩ := hst.get? (hv.get? hs) hsx
  exact ⟨y, Option.bind_eq_some_iff.mpr ⟨t, ht, hy⟩, hxy⟩

/-- A value that cannot be reordered itself is the same before and after. -/
theorem at?_eq {first : String} (h : v.Reordered w) (hv : v.Distinct)
    (hplain : ∀ x y, v.at? first key = some x → x.Reordered y → y = x) :
    w.at? first key = v.at? first key := by
  cases hx : v.at? first key with
  | some x =>
    obtain ⟨y, hy, hxy⟩ := h.at? hv hx
    rw [hy, hplain x y hx hxy]
  | none =>
    refine Option.eq_none_iff_forall_ne_some.mpr fun y hy ↦ ?_
    obtain ⟨x, hx', -⟩ := h.symm.at? (h.distinct hv) hy
    exact Option.some_ne_none x (hx'.symm.trans hx)

end Reordered

end FocusDrive.Toml.Value
