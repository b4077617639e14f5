import ScopeHints.Settings.Layer

/-! One layer of settings over another, told by the paths of keys through both. Where both have a
record they become one; what stands in the upper layer hides all else; and what the upper layer does
not name is found as the lower one has it. Hence no layer is changed by an empty one, by itself, or
by being laid on again. -/
namespace ScopeHints.Value
variable {key k : Scalar} {v w : Value} {fields fs gs base override : List (Scalar × Value)}

/-! ### Fields -/

theorem same_iff {a b : Scalar} : a.same b = true ↔ a.identity = b.identity := by
  simp [Scalar.same]

theorem same_comm (a b : Scalar) : a.same b = b.same a := by
  simp only [Scalar.same, eq_comm]

theorem same_congr {a b : Scalar} (h : a.same b = true) (c : Scalar) : a.same c = b.same c := by
  simp only [Scalar.same, same_iff.1 h]

theorem fieldIn_congr (h : k.same key = true) (fields : List (Scalar × Value)) :
    fieldIn k fields = fieldIn key fields := by
  induction fields with
  | nil => rfl
  | cons f fields ih =>
    obtain ⟨j, w⟩ := f
    rw [fieldIn, fieldIn, same_comm j k, same_congr h, same_comm key, ih]

theorem fieldIn_setField (key k : Scalar) (v : Value) (fields : List (Scalar × Value)) :
    fieldIn key (setField k v fields) = if k.same key then some v else fieldIn key fields := by
  induction fields with
  | nil => rfl
  | cons f fields ih =>
    obtain ⟨j, w⟩ := f
    rw [setField]
    by_cases hj : j.same k = true
    · rw [if_pos hj, fieldIn, fieldIn, same_congr hj]
      split <;> rfl
    · rw [if_neg hj, fieldIn, fieldIn, ih]
      by_cases hkey : j.same key = true
      · have hk : ¬ k.same key = true := by
          rwa [same_comm, ← same_congr hkey]
        rw [if_pos hkey, if_neg hk, if_pos hkey]
      · rw [if_neg hkey, if_neg hkey]

theorem setField_fieldIn (h : fieldIn k fields = some v) : setField k v fields = fields := by
  induction fields with
  | nil => cases h
  | cons f fields ih =>
    obtain ⟨j, w⟩ := f
    rw [fieldIn] at h
    rw [setField]
    split at h
    · rename_i hj
      rw [if_pos hj, Option.some.inj h]
    · rename_i hj
      rw [if_neg hj, ih h]

theorem setField_of_fieldIn_eq_none (h : fieldIn k fields = none) (v : Value) :
    setField k v fields = fields ++ [(k, v)] := by
  induction fields with
  | nil => rfl
  | cons f fields ih =>
    obtain ⟨j, w⟩ := f
    rw [fieldIn] at h
    split at h
    · cases h
    · rename_i hj
      rw [setField, if_neg hj, ih h, List.cons_append]

theorem fieldIn_eq_none_iff : fieldIn key fields = none ↔ ∀ f ∈ fields, f.1.same key = false := by
  induction fields with
  | nil => simp [fieldIn]
  | cons f fields ih =>
    rw [fieldIn, List.forall_mem_cons, ← ih]
    cases f.1.same key <;> simp

def KeysApart (fields : List (Scalar × Value)) : Prop :=
  fields.Pairwise fun f g => f.1.same g.1 = false

theorem KeysApart.fieldIn_of_mem (h : KeysApart fields) {f : Scalar × Value} (hf : f ∈ fields) :
    fieldIn f.1 fields = some f.2 := by
  induction fields with
  | nil => cases hf
  | cons g fields ih =>
    obtain ⟨hg, hrest⟩ := List.pairwise_cons.1 h
    rw [fieldIn]
    obtain rfl | hf := List.mem_cons.1 hf
    · rw [if_pos (same_iff.2 rfl)]
    · rw [if_neg (by simp [hg f hf]), ih hrest hf]

/-! ### One layer over another -/

theorem laidOver_none (v : Value) : v.laidOver none = v :=
  laidOver.eq_2 v none (by rintro fs gs - ⟨⟩)

theorem laidOver_of_not_record (h : ∀ fs, v ≠ .record fs) (below : Option Value) :
    v.laidOver below = v :=
  laidOver.eq_2 v below fun fs _ hv _ => h fs hv

theorem laidOver_cases (v : Value) (below : Option Value) :
    (∃ fs gs, v = .record fs ∧ below = some (.record gs) ∧
      v.laidOver below = .record (overlay gs fs)) ∨
    (∀ fs gs, v = .record fs → below ≠ some (.record gs)) ∧ v.laidOver below = v := by
  by_cases h : ∃ fs gs, v = .record fs ∧ below = some (.record gs)
  · obtain ⟨fs, gs, rfl, rfl⟩ := h
    exact .inl ⟨fs, gs, rfl, rfl, laidOver.eq_1 fs gs⟩
  · have hapart : ∀ fs gs, v = .record fs → below ≠ some (.record gs) :=
      fun fs gs hv hbelow => h ⟨fs, gs, hv, hbelow⟩
    exact .inr ⟨hapart, laidOver.eq_2 v below hapart⟩

theorem overlay_cons (base rest : List (Scalar × Value)) (k : Scalar) (v : Value) :
    overlay base ((k, v) :: rest) = overlay (setField k (v.laidOver (fieldIn k base)) base) rest :=
  rfl

theorem fieldIn_overlay_of_none (h : fieldIn key override = none) :
    fieldIn key (overlay base override) = fieldIn key base := by
  induction override generalizing base with
  | nil => rfl
  | cons f override ih =>
    obtain ⟨k, v⟩ := f
    rw [fieldIn] at h
    split at h
    · cases h
    · rename_i hk
      rw [overlay_cons, ih h, fieldIn_setField, if_neg hk]

theorem fieldIn_overlay_of_some (hkeys : KeysApart override) (h : fieldIn key override = some v) :
    fieldIn key (overlay base override) = some (v.laidOver (fieldIn key base)) := by
  induction override generalizing base with
  | nil => cases h
  | cons f override ih =>
    obtain ⟨k, w⟩ := f
    obtain ⟨hk, hkeys⟩ := List.pairwise_cons.1 hkeys
    rw [fieldIn] at h
    rw [overlay_cons]
    split at h
    · -- The key is this one, so that none of the rest is.
      rename_i hsame
      obtain rfl := Option.some.inj h
      have hrest : fieldIn key override = none := by
        rw [← fieldIn_congr hsame, fieldIn_eq_none_iff]
        intro f hf
        rw [← hk f hf]
        simp only [Scalar.same, eq_comm]
      rw [fieldIn_overlay_of_none hrest, fieldIn_setField, if_pos hsame, fieldIn_congr hsame]
    · rename_i hsame
      rw [ih hkeys h, fieldIn_setField, if_neg hsame]

theorem overlay_eq_self (h : ∀ f ∈ override, ∃ w, fieldIn f.1 fields = some w ∧
    f.2.laidOver (some w) = w) : overlay fields override = fields := by
  induction override with
  | nil => rfl
  | cons f override ih =>
    obtain ⟨k, v⟩ := f
    obtain ⟨⟨w, hw, hv⟩, hrest⟩ := List.forall_mem_cons.1 h
    rw [overlay_cons, hw, hv, setField_fieldIn hw, ih hrest]

theorem overlay_eq_append (hkeys : KeysApart override)
    (h : ∀ f ∈ override, fieldIn f.1 fields = none) :
    overlay fields override = fields ++ override := by
  induction override generalizing fields with
  | nil => exact (List.append_nil fields).symm
  | cons f override ih =>
    obtain ⟨k, v⟩ := f
    obtain ⟨hk, hkeys⟩ := List.pairwise_cons.1 hkeys
    obtain ⟨hnew, hrest⟩ := List.forall_mem_cons.1 h
    have hnext : ∀ f ∈ override, fieldIn f.1 (fields ++ [(k, v)]) = none := by
      intro f hf
      rw [fieldIn_eq_none_iff, List.forall_mem_append]
      exact ⟨fieldIn_eq_none_iff.1 (hrest f hf), by simpa using hk f hf⟩
    rw [overlay_cons, hnew, laidOver_none, setField_of_fieldIn_eq_none hnew, ih hkeys hnext,
      List.append_assoc, List.singleton_append]

/-! ### Values with keys apart -/

/-- No record in a value, as far as records lie directly in each other, has a key twice. -/
inductive Keyed : Value → Prop where
  | scalar (s : Scalar) : Keyed (.scalar s)
  | list (items : List Value) : Keyed (.list items)
  | record {fields : List (Scalar × Value)} (keys : KeysApart fields)
      (values : ∀ f ∈ fields, Keyed f.2) : Keyed (.record fields)

theorem Keyed.keys (h : (Value.record fields).Keyed) : KeysApart fields := by
  obtain _ | _ | ⟨hkeys, -⟩ := h
  exact hkeys

theorem Keyed.field (h : (Value.record fields).Keyed) (hv : fieldIn key fields = some v) :
    v.Keyed := by
  obtain _ | _ | ⟨-, hvalues⟩ := h
  induction fields with
  | nil => cases hv
  | cons f fields ih =>
    obtain ⟨hf, hrest⟩ := List.forall_mem_cons.1 hvalues
    rw [fieldIn] at hv
    split at hv
    · obtain rfl := Option.some.inj hv
      exact hf
    · exact ih hv hrest

theorem Keyed.laidOver_self (h : v.Keyed) : v.laidOver (some v) = v := by
  induction h with
  | scalar | list => exact laidOver_of_not_record (by rintro fs ⟨⟩) _
  | @record fields keys values ih =>
    have hself : overlay fields fields = fields :=
      overlay_eq_self fun f hf => ⟨f.2, keys.fieldIn_of_mem hf, ih f hf⟩
    exact (laidOver.eq_1 fields fields).trans (congrArg Value.record hself)

theorem Keyed.laidOver_laidOver (h : v.Keyed) (below : Option Value) :
    v.laidOver (some (v.laidOver below)) = v.laidOver below := by
  induction h generalizing below with
  | scalar | list =>
    rw [laidOver_of_not_record (by rintro fs ⟨⟩), laidOver_of_not_record (by rintro fs ⟨⟩)]
  | @record fields keys values ih =>
    obtain ⟨fs, gs, heq, rfl, hlaid⟩ | ⟨-, hlaid⟩ := laidOver_cases (.record fields) below
    · obtain rfl := Value.record.inj heq
      have htwice : overlay (overlay gs fields) fields = overlay gs fields :=
        overlay_eq_self fun f hf => ⟨_, fieldIn_overlay_of_some keys (keys.fieldIn_of_mem hf),
          ih f hf _⟩
      rw [hlaid]
      exact (laidOver.eq_1 fields _).trans (congrArg Value.record htwice)
    · rw [hlaid]
      exact (Keyed.record keys values).laidOver_self

/-! ### Paths -/

/-- What a value has at a path of keys. Only a record has anything under a key. -/
def at? : Value → List Scalar → Option Value
  | v, [] => some v
  | .record fields, key :: path => (fieldIn key fields).bind fun v => v.at? path
  | _, _ :: _ => none

theorem at?_cons_eq_some {path : List Scalar} : v.at? (key :: path) = some w ↔
    ∃ fields u, v = .record fields ∧ fieldIn key fields = some u ∧ u.at? path = some w := by
  cases v with
  | record fields => simp [at?, Option.bind_eq_some_iff]
  | _ => simp [at?]

theorem at?_append (v : Value) (path rest : List Scalar) :
    v.at? (path ++ rest) = (v.at? path).bind fun w => w.at? rest := by
  induction path generalizing v with
  | nil => rfl
  | cons key path ih =>
    cases v with
    | record fields =>
      rw [List.cons_append, at?, at?, Option.bind_assoc]
      exact congrArg _ (funext ih)
    | _ => rfl

/-- What the upper layer has at a path stands, unless it is a record and so is what the lower layer
has there. -/
theorem Keyed.at?_laidOver_upper (h : v.Keyed) {below : Option Value} {path : List Scalar}
    (hv : v.at? path = some w)
    (hapart : ∀ fs gs, w = .record fs → below.bind (·.at? path) ≠ some (.record gs)) :
    (v.laidOver below).at? path = some w := by
  induction path generalizing v below with
  | nil =>
    obtain rfl := Option.some.inj hv
    obtain ⟨fs, gs, rfl, rfl, -⟩ | ⟨-, hlaid⟩ := laidOver_cases v below
    · exact absurd rfl (hapart fs gs rfl)
    · rw [hlaid]
      rfl
  | cons key path ih =>
    obtain ⟨fs, gs, rfl, rfl, hlaid⟩ | ⟨-, hlaid⟩ := laidOver_cases v below
    · obtain ⟨fields, u, heq, hu, hw⟩ := at?_cons_eq_some.1 hv
      obtain rfl := Value.record.inj heq
      have hbelow := ih (h.field hu) hw hapart
      rw [hlaid]
      exact at?_cons_eq_some.2 ⟨_, _, rfl, fieldIn_overlay_of_some h.keys hu, hbelow⟩
    · rw [hlaid]
      exact hv

theorem Keyed.at?_laidOver_joined (h : v.Keyed) {path : List Scalar}
    (hw : w.at? path = some (.record gs)) (hv : v.at? path = some (.record fs)) :
    (v.laidOver (some w)).at? path = some (.record (overlay gs fs)) := by
  induction path generalizing v w with
  | nil =>
    obtain rfl := Option.some.inj hw
    obtain rfl := Option.some.inj hv
    exact congrArg some (laidOver.eq_1 fs gs)
  | cons key path ih =>
    obtain ⟨lower, w', rfl, hw', hw⟩ := at?_cons_eq_some.1 hw
    obtain ⟨upper, v', rfl, hv', hv⟩ := at?_cons_eq_some.1 hv
    have hbelow := ih (h.field hv') hw hv
    have hfield : fieldIn key (overlay lower upper) = some (v'.laidOver (some w')) := by
      rw [← hw']
      exact fieldIn_overlay_of_some h.keys hv'
    rw [laidOver.eq_1]
    exact at?_cons_eq_some.2 ⟨_, _, rfl, hfield, hbelow⟩

structure Overlaid (base override merged : Value) : Prop where
  upper : ∀ path v, override.at? path = some v →
    (∀ fs gs, v = .record fs → base.at? path ≠ some (.record gs)) → merged.at? path = some v
  joined : ∀ path fs gs, base.at? path = some (.record gs) →
    override.at? path = some (.record fs) → merged.at? path = some (.record (overlay gs fs))
  /-- A key that the upper layer lacks in a record of both is found as the lower layer has it. -/
  kept : ∀ path key rest fs gs, base.at? path = some (.record gs) →
    override.at? path = some (.record fs) → fieldIn key fs = none →
    merged.at? (path ++ key :: rest) = base.at? (path ++ key :: rest)

theorem Keyed.overlaid (h : (Value.record override).Keyed) :
    Overlaid (.record base) (.record override) (.record (overlay base override)) := by
  have hmerged : (Value.record override).laidOver (some (.record base)) =
      .record (overlay base override) := laidOver.eq_1 override base
  rw [← hmerged]
  refine ⟨fun path v hv hapart => h.at?_laidOver_upper hv hapart,
    fun path fs gs hbase hover => h.at?_laidOver_joined hbase hover, ?_⟩
  intro path key rest fs gs hbase hover hnone
  rw [at?_append, at?_append, h.at?_laidOver_joined hbase hover, hbase]
  change (fieldIn key (overlay gs fs)).bind _ = (fieldIn key gs).bind _
  rw [fieldIn_overlay_of_none hnone]

/-- Settings in layers: where both have a record its fields are merged in turn, what else the upper
layer has stands, and what it leaves out is as below. An empty layer, a layer over itself and a layer
laid on twice change nothing. -/
theorem overlay_overlaid (base override : List (Scalar × Value))
    (h : (Value.record override).Keyed) :
    Overlaid (.record base) (.record override) (.record (overlay base override)) ∧
    overlay [] override = override ∧ overlay base [] = base ∧
    overlay override override = override ∧
    overlay (overlay base override) override = overlay base override := by
  have hself := h.laidOver_self
  have htwice := h.laidOver_laidOver (some (.record base))
  rw [laidOver.eq_1] at hself
  rw [laidOver.eq_1, laidOver.eq_1] at htwice
  exact ⟨h.overlaid, overlay_eq_append h.keys fun _ _ => rfl, rfl, Value.record.inj hself,
    Value.record.inj htwice⟩

def lowerLayer : List (Scalar × Value) :=
  named [("hints", .record (named [("limit", .int 5), ("keywords", .bool true)])),
    ("worker", .record (named [("count", .int 2)])), ("parser", .int 0)]

def upperLayer : List (Scalar × Value) :=
  named [("hints", .record (named [("limit", .int 9)])), ("worker", .null),
    ("parser", .record (named [("retries", .int 3)]))]

theorem overlay_overlaid_upperLayer : (Value.record upperLayer).Keyed ∧
    overlay lowerLayer upperLayer =
      named [("hints", .record (named [("limit", .int 9), ("keywords", .bool true)])),
        ("worker", .null), ("parser", .record (named [("retries", .int 3)]))] ∧
    (Value.record (overlay lowerLayer upperLayer)).at? [.text "hints", .text "keywords"] =
      some (.bool true) ∧
    overlay (overlay lowerLayer upperLayer) upperLayer = overlay lowerLayer upperLayer := by
  have hsection : ∀ name n, (Value.record (named [(name, .int n)])).Keyed := by
    refine fun name n => .record (List.pairwise_singleton _ _) ?_
    intro f hf
    obtain rfl := List.mem_singleton.1 hf
    exact .scalar _
  have hkeyed : (Value.record upperLayer).Keyed :=
    .record (by unfold KeysApart; decide) (List.forall_mem_cons.2 ⟨hsection "limit" 9,
      List.forall_mem_cons.2 ⟨.scalar _, List.forall_mem_singleton.2 (hsection "retries" 3)⟩⟩)
  obtain ⟨hpaths, -, -, -, htwice⟩ := overlay_overlaid lowerLayer upperLayer hkeyed
  exact ⟨hkeyed, rfl, hpaths.kept [.text "hints"] (.text "keywords") [] _ _ rfl rfl rfl, htwice⟩

end ScopeHints.Value
