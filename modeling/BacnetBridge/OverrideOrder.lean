import Mathlib.Data.List.Nodup
import Mathlib.Data.List.TakeDrop
import BacnetBridge.Keys

/-! Whether the order in which the overrides are visited matters. -/
namespace BacnetBridge

/-! ## Paths -/

/-- What `splitn2` takes apart at the first dot. -/
theorem splitn2_two {s a b : String} {more : List String} (h : splitn2 s = a :: b :: more) :
    s = a ++ "." ++ b := by
  unfold splitn2 at h
  split at h
  · cases h
  · rename_i head dot tail hspan
    cases h
    rw [List.span_eq_takeWhile_dropWhile, Prod.mk.injEq] at hspan
    obtain ⟨hhead, htail⟩ := hspan
    have hstop := List.head?_dropWhile_not (fun c => decide (c ≠ '.')) s.toList
    rw [htail] at hstop
    obtain rfl : dot = '.' := by
      simpa using hstop
    have hs : s.toList = head ++ '.' :: tail := by
      rw [← hhead, ← htail, List.takeWhile_append_dropWhile]
    rw [← String.toList_inj, hs]
    simp [String.toList_append]

theorem splitn2_one {s a : String} (h : splitn2 s = [a]) : s = a := by
  unfold splitn2 at h
  split at h <;> cases h
  rfl

theorem span_name {name rest : List Char} (h : '.' ∉ name) (hrest : ∀ c ∈ rest.head?, c = '.') :
    (name ++ rest).span (· ≠ '.') = (name, rest) := by
  have hname : ∀ c ∈ name, decide (c ≠ '.') = true := by
    intro c hc
    have hne : c ≠ '.' := by
      rintro rfl
      exact h hc
    simpa using hne
  rw [List.span_eq_takeWhile_dropWhile, List.takeWhile_append_of_pos hname,
    List.dropWhile_append_of_pos hname]
  cases rest with
  | nil => simp
  | cons c rest =>
    obtain rfl := hrest c rfl
    simp

/-- A name without a dot comes off. -/
theorem splitn2_append {a : String} (h : '.' ∉ a.toList) (b : String) :
    splitn2 (a ++ "." ++ b) = [a, b] := by
  have hlist : (a ++ "." ++ b).toList = a.toList ++ '.' :: b.toList := by
    simp [String.toList_append]
  have hspan := span_name h (by simp : ∀ c ∈ ('.' :: b.toList).head?, c = '.')
  unfold splitn2
  rw [hlist, hspan]
  simp

theorem splitn2_plain {s : String} (h : '.' ∉ s.toList) : splitn2 s = [s] := by
  have hspan := span_name h (by simp : ∀ c ∈ ([] : List Char).head?, c = '.')
  rw [List.append_nil] at hspan
  unfold splitn2
  rw [hspan]

/-- The fields whose names anything can follow. -/
def Key.Open (k : Key) : Prop :=
  k = .transport ∨ k = .deviceId ∨ k = .vendorId ∨ k = .deviceName

/-- The path of the field, or a longer one. -/
def Key.Heads (k : Key) (path : String) : Prop :=
  path = k.path ∨ ∃ tail, path = k.path ++ "." ++ tail

section

variable {k : Key} {name : String}

theorem heads_of_split (hpath : k.path = "router" ++ "." ++ name) {rest : String}
    {parts : List String} (h : splitn2 rest = name :: parts) :
    k.Heads ("router" ++ "." ++ rest) := by
  cases parts with
  | nil =>
    obtain rfl := splitn2_one h
    exact .inl hpath.symm
  | cons tail more =>
    obtain rfl := splitn2_two h
    refine .inr ⟨tail, ?_⟩
    simp only [hpath, String.append_assoc]

theorem split_of_heads (hpath : k.path = "router" ++ "." ++ name) (hname : '.' ∉ name.toList)
    {path : String} (h : k.Heads path) :
    ∃ rest parts, splitn2 path = ["router", rest] ∧ splitn2 rest = name :: parts := by
  have hrouter : '.' ∉ "router".toList := by decide
  rcases h with rfl | ⟨tail, rfl⟩
  · rw [hpath]
    exact ⟨name, [], splitn2_append hrouter name, splitn2_plain hname⟩
  · have hassoc : "router" ++ "." ++ name ++ "." ++ tail =
        "router" ++ "." ++ (name ++ "." ++ tail) := by
      simp only [String.append_assoc]
    rw [hpath, hassoc]
    exact ⟨name ++ "." ++ tail, [tail], splitn2_append hrouter _, splitn2_append hname tail⟩

end

/-- One of the four fields is reached by its path and by every longer one. -/
theorem reached_of_heads {k : Key} (hopen : k.Open) {path : String} (h : k.Heads path) :
    reached path = some k := by
  rcases hopen with rfl | rfl | rfl | rfl
  · obtain ⟨rest, parts, hrouter, hname⟩ :=
      split_of_heads (by decide : _ = "router" ++ "." ++ "transport") (by decide) h
    simp only [reached, hrouter, routerKey, hname]
  · obtain ⟨rest, parts, hrouter, hname⟩ :=
      split_of_heads (by decide : _ = "router" ++ "." ++ "device_id") (by decide) h
    simp only [reached, hrouter, routerKey, hname]
  · obtain ⟨rest, parts, hrouter, hname⟩ :=
      split_of_heads (by decide : _ = "router" ++ "." ++ "vendor_id") (by decide) h
    simp only [reached, hrouter, routerKey, hname]
  · obtain ⟨rest, parts, hrouter, hname⟩ :=
      split_of_heads (by decide : _ = "router" ++ "." ++ "device_name") (by decide) h
    simp only [reached, hrouter, routerKey, hname]

theorem lanKey_path {key : String} {k : Key} (h : lanKey key = some k) :
    k.path = "router" ++ "." ++ ("lan" ++ "." ++ key) := by
  unfold lanKey at h
  split at h <;> cases h <;> decide

theorem scKey_path {key : String} {k : Key} (h : scKey key = some k) :
    k.path = "router" ++ "." ++ ("sc" ++ "." ++ key) := by
  unfold scKey at h
  split at h <;> cases h <;> decide

theorem tailscaleKey_path {key : String} {k : Key} (h : tailscaleKey key = some k) :
    k.path = "router" ++ "." ++ ("tailscale" ++ "." ++ key) := by
  unfold tailscaleKey at h
  split at h <;> cases h <;> decide

theorem webKey_path {key : String} {k : Key} (h : webKey key = some k) :
    k.path = "web" ++ "." ++ key := by
  unfold webKey at h
  split at h <;> cases h <;> decide

theorem hubKey_path {key : String} {k : Key} (h : hubKey key = some k) :
    k.path = "hub" ++ "." ++ key := by
  unfold hubKey at h
  split at h <;> cases h <;> decide

theorem routerKey_heads {rest : String} {k : Key} (h : routerKey rest = some k) :
    ("router" ++ "." ++ rest = k.path) ∨ k.Open ∧ k.Heads ("router" ++ "." ++ rest) := by
  unfold routerKey at h
  split at h
  · rename_i hsplit
    cases h
    exact .inr ⟨.inl rfl, heads_of_split (by decide) hsplit⟩
  · rename_i hsplit
    cases h
    exact .inr ⟨.inr (.inl rfl), heads_of_split (by decide) hsplit⟩
  · rename_i hsplit
    cases h
    exact .inr ⟨.inr (.inr (.inl rfl)), heads_of_split (by decide) hsplit⟩
  · rename_i hsplit
    cases h
    exact .inr ⟨.inr (.inr (.inr rfl)), heads_of_split (by decide) hsplit⟩
  · rename_i hsplit
    rw [splitn2_two hsplit]
    exact .inl (lanKey_path h).symm
  · rename_i hsplit
    rw [splitn2_two hsplit]
    exact .inl (scKey_path h).symm
  · rename_i hsplit
    rw [splitn2_two hsplit]
    exact .inl (tailscaleKey_path h).symm
  · cases h

/-- Every other field is reached by its path alone. -/
theorem heads_of_reached {path : String} {k : Key} (h : reached path = some k) :
    path = k.path ∨ k.Open ∧ k.Heads path := by
  unfold reached at h
  split at h
  · rename_i hsplit
    rw [splitn2_two hsplit]
    exact routerKey_heads h
  · rename_i hsplit
    rw [splitn2_two hsplit]
    exact .inl (webKey_path h).symm
  · rename_i hsplit
    rw [splitn2_two hsplit]
    exact .inl (hubKey_path h).symm
  · cases h

theorem reached_open_iff {k : Key} (hopen : k.Open) {path : String} :
    reached path = some k ↔ k.Heads path := by
  constructor
  · intro h
    rcases heads_of_reached h with hpath | ⟨-, hheads⟩
    · exact .inl hpath
    · exact hheads
  · exact reached_of_heads hopen

/-! ## Orders -/

theorem assigned_eq_some {o : String × String} {k : Key} {v : k.kind.Value} :
    assigned o = some ⟨k, v⟩ ↔ reached o.1 = some k ∧ k.parse o.2 = some v := by
  unfold assigned
  constructor
  · intro h
    obtain ⟨k', hreached, h⟩ := Option.bind_eq_some_iff.mp h
    obtain ⟨v', hparse, h⟩ := Option.map_eq_some_iff.mp h
    cases h
    exact ⟨hreached, hparse⟩
  · rintro ⟨hreached, hparse⟩
    rw [hreached, Option.bind_some, hparse, Option.map_some]

/-- Two configurations made of one by overrides are the same if their fields are. -/
theorem applyOverrides_eq_iff (c : BridgeConfig) (overrides overrides' : List (String × String)) :
    applyOverrides c overrides' = applyOverrides c overrides ↔
      Assign.assignAll assigned c.view overrides' = Assign.assignAll assigned c.view overrides := by
  obtain ⟨hview, hbdt⟩ := view_applyOverrides c overrides
  obtain ⟨hview', hbdt'⟩ := view_applyOverrides c overrides'
  rw [← hview, ← hview']
  constructor
  · intro h
    rw [h]
  · intro h
    exact BridgeConfig.ext_view h (hbdt'.trans hbdt.symm)

/-- No two overrides set one of the four fields to different values. -/
def Agreeing (overrides : List (String × String)) : Prop :=
  ∀ o ∈ overrides, ∀ o' ∈ overrides, ∀ k : Key, k.Open → k.Heads o.1 → k.Heads o'.1 →
    ∀ v w, k.parse o.2 = some v → k.parse o'.2 = some w → v = w

/-- Distinct paths meet only in the four fields. -/
theorem agree_iff {overrides : List (String × String)} (hkeys : (overrides.map Prod.fst).Nodup) :
    Assign.Agree assigned overrides ↔ Agreeing overrides := by
  constructor
  · intro h o ho o' ho' k hopen hheads hheads' v w hv hw
    have hassigned := assigned_eq_some.mpr ⟨reached_of_heads hopen hheads, hv⟩
    have hassigned' := assigned_eq_some.mpr ⟨reached_of_heads hopen hheads', hw⟩
    exact h o ho o' ho' k v w hassigned hassigned'
  · intro h o ho o' ho' k v w hv hw
    obtain ⟨hreached, hv⟩ := assigned_eq_some.mp hv
    obtain ⟨hreached', hw⟩ := assigned_eq_some.mp hw
    by_cases hopen : k.Open
    · exact h o ho o' ho' k hopen ((reached_open_iff hopen).mp hreached)
        ((reached_open_iff hopen).mp hreached') v w hv hw
    · have hpath : ∀ {path}, reached path = some k → path = k.path := by
        intro path hpath
        rcases heads_of_reached hpath with hpath | ⟨hopen', -⟩
        · exact hpath
        · exact absurd hopen' hopen
      have hsame : o.1 = o'.1 := (hpath hreached).trans (hpath hreached').symm
      obtain rfl := List.inj_on_of_nodup_map hkeys ho ho' hsame
      exact Option.some.inj (hv.symm.trans hw)

/-- All orders of overrides with distinct paths make the same configuration
exactly if no two of them set one of the four fields to different values. -/
theorem override_order_irrelevant_iff (c : BridgeConfig) {overrides : List (String × String)}
    (hkeys : (overrides.map Prod.fst).Nodup) :
    (∀ overrides', overrides.Perm overrides' →
      applyOverrides c overrides' = applyOverrides c overrides) ↔ Agreeing overrides := by
  rw [← agree_iff hkeys, ← Assign.order_irrelevant_iff]
  constructor
  · intro h overrides' hp
    exact (applyOverrides_eq_iff c overrides overrides').mp (h overrides' hp)
  · intro h overrides' hp
    exact (applyOverrides_eq_iff c overrides overrides').mpr (h overrides' hp)

theorem two_sections_in_any_order :
    ([("router.transport", "lan"), ("web.port", "80")].map Prod.fst).Nodup ∧
    ∀ overrides', [("router.transport", "lan"), ("web.port", "80")].Perm overrides' →
      applyOverrides .generateDefault overrides' =
        applyOverrides .generateDefault [("router.transport", "lan"), ("web.port", "80")] := by
  have hkeys : ([("router.transport", "lan"), ("web.port", "80")].map Prod.fst).Nodup := by
    decide
  refine ⟨hkeys, (override_order_irrelevant_iff .generateDefault hkeys).mpr ?_⟩
  have hport : ∀ k : Key, k.Open → ¬ k.Heads "web.port" := by
    intro k hopen hheads
    cases reached_of_heads hopen hheads
    simp [Key.Open] at hopen
  intro o ho o' ho' k hopen hheads hheads' v w hv hw
  simp only [List.mem_cons, List.not_mem_nil, or_false] at ho ho'
  rcases ho with rfl | rfl
  · rcases ho' with rfl | rfl
    · exact Option.some.inj (hv.symm.trans hw)
    · exact absurd hheads' (hport k hopen)
  · exact absurd hheads (hport k hopen)

/-- A path that goes on behind the transport competes with the transport's own. -/
theorem longer_path_competes :
    ([("router.transport", "sc"), ("router.transport.x", "tailscale")].map Prod.fst).Nodup ∧
    [("router.transport", "sc"), ("router.transport.x", "tailscale")].Perm
      [("router.transport.x", "tailscale"), ("router.transport", "sc")] ∧
    (applyOverrides .generateDefault
      [("router.transport", "sc"), ("router.transport.x", "tailscale")]).router.transport =
        "tailscale" ∧
    (applyOverrides .generateDefault
      [("router.transport.x", "tailscale"), ("router.transport", "sc")]).router.transport =
        "sc" := by
  decide

end BacnetBridge
