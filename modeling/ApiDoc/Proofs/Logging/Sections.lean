import ApiDoc.Proofs.Logging.Frame
import ApiDoc.Proofs.Logging.Qualify

/-!
# The loggers of a configuration while it is applied

What is made from a section takes its place in the configuration, and a section can refer to any other part. So everything that stands below some setting of the whole can change before the loggers are configured, and still the section of the loggers keeps its names (`HasLoggers.of_makeAll`, `HasLoggers.of_makeHandlers`): what is found by references stands where its place says (`Placed`), so a part is replaced at two keys from the top at least, or else it is a section that loses the settings of a handler.
-/

namespace ApiDoc.Logging

open Yaml (Scalar Value)

/-! ### Parts without parts -/

def ConfigItem.isPlain : ConfigItem → Bool
  | .map _ | .list _ => false
  | _ => true

theorem isPlain_of_lookup_known {name : String} {item : ConfigItem} (h : known.lookup name = some item) : item.isPlain = true := by
  have hall : known.all (fun e => e.2.isPlain) = true := rfl
  rw [List.all_eq_true] at hall
  obtain ⟨before, after, heq, -⟩ := List.lookup_eq_some_iff.mp h
  exact hall (name, item) (heq ▸ List.mem_append_right _ List.mem_cons_self)

theorem isPlain_findBelow {whole used : String} {found item : ConfigItem} {names : List String} (hfound : found.isPlain = true)
    (h : findBelow whole used found names = .ok item) : item.isPlain = true := by
  induction names generalizing used found with
  | nil =>
    cases h
    exact hfound
  | cons name rest ih =>
    unfold findBelow at h
    dsimp only at h
    split at h
    · rename_i hknown
      exact ih (isPlain_of_lookup_known hknown) h
    · exact ih rfl h
    · cases h

theorem isPlain_findKnown {name : String} {item : ConfigItem} (h : findKnown name = .ok item) : item.isPlain = true := by
  unfold findKnown at h
  split at h
  · cases h
  · cases h
  · split at h
    · exact isPlain_findBelow rfl h
    · cases h

/-- What has no parts has at most characters, which have none either. -/
theorem isPlain_child {resolve : Found → Except ReferenceError Found} {f f' : Found} {key : Scalar} (hf : f.item.isPlain = true)
    (h : f.child resolve key = .ok f') : f'.item.isPlain = true := by
  unfold Found.child at h
  split at h
  · rename_i hitem
    rw [hitem] at hf
    cases hf
  · rename_i hitem
    rw [hitem] at hf
    cases hf
  · cases h
  · split at h
    · cases h
      rfl
    · cases h
  · cases h
  · cases h

/-! ### Places -/

/-- Something that stands where its place says, as far as places of one key go. Only what has no parts may be without a place. -/
structure Placed (config : ConfigItem) (f : Found) : Prop where
  place_ne_nil : f.item.isPlain = false → f.place ≠ []
  find?_eq : ∀ key, f.place = [key] → ∃ entries, config = .map entries ∧ ConfigItem.find? key entries = some f.item

theorem placed_of_isPlain {config item : ConfigItem} (h : item.isPlain = true) : Placed config ⟨item, []⟩ where
  place_ne_nil hparts := by
    rw [h] at hparts
    cases hparts
  find?_eq _ hplace := by cases hplace

theorem placed_append {config item : ConfigItem} {place : ConfigItem.Place} (hplace : place ≠ []) (key : Scalar) :
    Placed config ⟨item, place ++ [key]⟩ where
  place_ne_nil _ := by simp
  find?_eq _ hkey := by
    obtain ⟨first, rest, rfl⟩ := List.exists_cons_of_ne_nil hplace
    simp at hkey

section

variable {config : ConfigItem} {resolve : Found → Except ReferenceError Found}
  (hresolve : ∀ f f', Placed config f → resolve f = .ok f' → Placed config f')
include hresolve

theorem placed_child {f f' : Found} {key : Scalar} (hf : f.item.isPlain = false → f.place ≠ [])
    (h : f.child resolve key = .ok f') : Placed config f' := by
  obtain ⟨item, place⟩ := f
  unfold Found.child at h
  split at h
  · split at h
    · rename_i hitem _ _ _
      exact hresolve _ _ (placed_append (hf (by rw [hitem]; rfl)) _) h
    · cases h
  · split at h
    · rename_i hitem _ _ _
      exact hresolve _ _ (placed_append (hf (by rw [hitem]; rfl)) _) h
    · cases h
  · cases h
  · split at h
    · cases h
      exact placed_of_isPlain rfl
    · cases h
  · cases h
  · cases h

theorem placed_step {f f' : Found} {step : PathStep} (hf : Placed config f) (h : f.step resolve step = .ok f') : Placed config f' := by
  have hchild : ∀ key, f.child resolve key = .ok f' → Placed config f' := fun key => placed_child hresolve hf.place_ne_nil
  unfold Found.step at h
  split at h
  · exact hchild _ h
  · dsimp only at h
    split at h
    · exact hchild _ h
    · split at h
      · exact hchild _ h
      · exact hchild _ h

theorem placed_steps {path rest : List Char} {fuel : Nat} {f f' : Found} (hf : Placed config f)
    (h : f.steps resolve path fuel rest = .ok f') : Placed config f' := by
  induction fuel generalizing f rest with
  | zero => cases h
  | succ fuel ih =>
    cases rest with
    | nil =>
      cases h
      exact hf
    | cons c rest =>
      unfold Found.steps at h
      split at h
      · cases h
      · obtain ⟨f₁, hstep, h⟩ := bind_eq_ok_iff.mp h
        exact ih (placed_step hresolve hf hstep) h

end

/-- **What something stands for stands where its place says.** -/
theorem placed_resolveWithin {entries : List (Scalar × ConfigItem)} {fuel : Nat} {f f' : Found}
    (hf : Placed (.map entries) f) (h : ConfigItem.resolveWithin (.map entries) fuel f = .ok f') : Placed (.map entries) f' := by
  induction fuel generalizing f f' with
  | zero => cases h
  | succ fuel ih =>
    unfold ConfigItem.resolveWithin at h
    split at h
    · split at h
      · cases h
        exact hf
      · obtain ⟨item, hitem, rfl⟩ := map_eq_ok_iff.mp h
        exact placed_of_isPlain (isPlain_findKnown hitem)
      · split at h
        · cases h
        · obtain ⟨first, hfirst, h⟩ := bind_eq_ok_iff.mp h
          refine placed_steps (fun _ _ => ih) ?_ h
          unfold Found.child at hfirst
          dsimp only at hfirst
          split at hfirst
          · rename_i hfind
            refine ih ⟨fun _ => by simp, fun key hkey => ⟨entries, rfl, ?_⟩⟩ hfirst
            rw [← (List.cons.inj hkey).1]
            exact hfind
          · cases hfirst
    · cases h
      exact hf

theorem placed_resolve {config : ConfigItem} {entries : List (Scalar × ConfigItem)} (hconfig : config = .map entries)
    (f f' : Found) (hf : Placed config f) (h : config.resolve f = .ok f') : Placed config f' := by
  subst hconfig
  exact placed_resolveWithin hf h

/-! ### The names of the loggers -/

/-- A configuration whose section for loggers is a mapping with some names. Those names may be missing that handlers use as settings. -/
def HasLoggers (names : List String) (config : ConfigItem) : Prop :=
  ∃ sections, config.get? "loggers" = some (.map sections) ∧
    (∀ key ∈ sections.map Prod.fst, ∃ name ∈ names, key = .str name) ∧
    ∀ name ∈ names, name ∉ usedSettings → Scalar.str name ∈ sections.map Prod.fst

theorem find?_mapValues {a : String} (f : Scalar → ConfigItem → ConfigItem) (entries : List (Scalar × ConfigItem)) :
    ConfigItem.find? (.str a) (entries.map fun e => (e.1, f e.1 e.2)) =
      (ConfigItem.find? (.str a) entries).map (f (.str a)) := by
  induction entries with
  | nil => rfl
  | cons e rest ih =>
    obtain ⟨k, v⟩ := e
    rw [List.map_cons, ConfigItem.find?, ConfigItem.find?, ih]
    split
    · rename_i hk
      rw [Yaml.sameKey_str_iff.mp hk]
      rfl
    · rfl

theorem replaceAt_map (new : ConfigItem) (key : Scalar) (rest : ConfigItem.Place) (entries : List (Scalar × ConfigItem)) :
    ConfigItem.replaceAt new (key :: rest) (.map entries) =
      .map (entries.map fun e => (e.1, if e.1.sameKey key then ConfigItem.replaceAt new rest e.2 else e.2)) := by
  rw [ConfigItem.replaceAt]
  congr 1
  refine List.map_congr_left fun e _ => ?_
  exact (apply_ite (Prod.mk e.1) _ _ _).symm

theorem get?_replaceAt {config : ConfigItem} {name : String} {item : ConfigItem} (h : config.get? name = some item)
    (new : ConfigItem) (key : Scalar) (rest : ConfigItem.Place) :
    (ConfigItem.replaceAt new (key :: rest) config).get? name =
      some (if key = .str name then ConfigItem.replaceAt new rest item else item) := by
  unfold ConfigItem.get? at h
  split at h
  · rw [replaceAt_map, ConfigItem.get?, find?_mapValues fun k v => if k.sameKey key then ConfigItem.replaceAt new rest v else v, h]
    simp only [Yaml.str_sameKey_iff, Option.map_some]
  · cases h

theorem keys_replaceAt (new : ConfigItem) (key : Scalar) (rest : ConfigItem.Place) (entries : List (Scalar × ConfigItem)) :
    ∃ entries', ConfigItem.replaceAt new (key :: rest) (.map entries) = .map entries' ∧
      entries'.map Prod.fst = entries.map Prod.fst := by
  refine ⟨_, replaceAt_map new key rest entries, ?_⟩
  rw [List.map_map]
  rfl

namespace HasLoggers

variable {names : List String} {config : ConfigItem} (h : HasLoggers names config)
include h

theorem exists_entries : ∃ entries, config = .map entries := by
  obtain ⟨sections, hget, -⟩ := h
  unfold ConfigItem.get? at hget
  split at hget
  · exact ⟨_, rfl⟩
  · cases hget

/-- What is put below a part of the configuration leaves the names of the loggers alone. -/
theorem replaceAt_append {place : ConfigItem.Place} (hplace : place ≠ []) (key : Scalar) (new : ConfigItem) :
    HasLoggers names (ConfigItem.replaceAt new (place ++ [key]) config) := by
  obtain ⟨sections, hget, hkeys⟩ := h
  obtain ⟨first, rest, rfl⟩ := List.exists_cons_of_ne_nil hplace
  have hnew := get?_replaceAt hget new first (rest ++ [key])
  split at hnew
  · obtain ⟨second, rest', hrest⟩ := List.exists_cons_of_ne_nil (List.append_ne_nil_of_right_ne_nil rest (List.cons_ne_nil key []))
    obtain ⟨sections', hsections, hsame⟩ := keys_replaceAt new second rest' sections
    rw [hrest, hsections] at hnew
    rw [← hsame] at hkeys
    exact ⟨sections', by rw [List.cons_append, hrest, hnew], hkeys⟩
  · exact ⟨sections, hnew, hkeys⟩

theorem replaceAt_part {found : Found} {entries : List (Scalar × ConfigItem)} (hfound : Placed config found)
    (hitem : found.item = .map entries) :
    HasLoggers names (ConfigItem.replaceAt (.map (entries.filter fun e => !usedSettings.any fun name => e.1.sameKey (.str name)))
      found.place config) := by
  have hne : found.place ≠ [] := hfound.place_ne_nil (by rw [hitem]; rfl)
  obtain ⟨key, rest, hplace⟩ := List.exists_cons_of_ne_nil hne
  rcases List.eq_nil_or_concat rest with rfl | ⟨rest, last, rfl⟩
  · obtain ⟨sections, hget, hkeys, hmem⟩ := h
    rw [hplace]
    have hnew := get?_replaceAt hget (.map (entries.filter fun e => !usedSettings.any fun name => e.1.sameKey (.str name))) key []
    split at hnew
    · rename_i hkey
      obtain ⟨all, rfl, hfind⟩ := hfound.find?_eq key hplace
      rw [hitem, hkey] at hfind
      obtain rfl : sections = entries := by
        rw [ConfigItem.get?, hfind] at hget
        exact (ConfigItem.map.inj (Option.some.inj hget)).symm
      refine ⟨_, hnew, fun k hk => ?_, fun name hname hunused => ?_⟩
      · obtain ⟨e, he, rfl⟩ := List.mem_map.mp hk
        exact hkeys _ (List.mem_map_of_mem (List.mem_filter.mp he).1)
      · obtain ⟨e, he, heq⟩ := List.mem_map.mp (hmem name hname hunused)
        refine List.mem_map.mpr ⟨e, List.mem_filter.mpr ⟨he, ?_⟩, heq⟩
        rw [Bool.not_eq_true', List.any_eq_false]
        intro used hused hsame
        rw [heq, Yaml.str_sameKey_iff] at hsame
        cases hsame
        exact hunused hused
    · exact ⟨sections, hnew, hkeys, hmem⟩
  · rw [hplace, List.concat_eq_append, ← List.cons_append]
    exact h.replaceAt_append (List.cons_ne_nil _ _) last _

end HasLoggers

/-! ### Reading sections -/

theorem eq_ok_of_toOption {ε α : Type} {x : Except ε α} {a : α} (h : x.toOption = some a) : x = .ok a := by
  cases x with
  | error e => cases h
  | ok b => rw [Option.some.inj h]

section

variable {config name : ConfigItem} {entries : List (Scalar × ConfigItem)} {found : Found} (hconfig : config = .map entries)
include hconfig

theorem place_of_sectionOf {part : String} (h : sectionOf config part = .ok found) : found.place ≠ [] ∨ found.item.isPlain = true := by
  obtain ⟨setting, hsetting, h⟩ := bind_eq_ok_iff.mp h
  cases h
  unfold topSetting at hsetting
  split at hsetting
  · cases hsetting
    exact .inl (List.cons_ne_nil _ _)
  · rename_i item hitem
    obtain ⟨f, hf, rfl⟩ := map_eq_ok_iff.mp hsetting
    rw [mapError_eq_ok_iff] at hf
    have hplaced : Placed config ⟨item, [.str part]⟩ := by
      refine ⟨fun _ => List.cons_ne_nil _ _, fun key hkey => ⟨entries, hconfig, ?_⟩⟩
      rw [← (List.cons.inj hkey).1]
      rw [hconfig] at hitem
      exact hitem
    have hfound := placed_resolve hconfig _ _ hplaced hf
    cases hplain : f.item.isPlain with
    | true => exact .inr hplain
    | false => exact .inl (hfound.place_ne_nil hplain)

theorem placed_of_partOf? {part : Section} (hfound : found.place ≠ [] ∨ found.item.isPlain = true)
    (h : partOf? config found name = some part) :
    found.place ≠ [] ∧ (∃ key, name = .scalar key) ∧ ∃ f, Placed config f ∧ f.place = part.place ∧ f.item = .map part.entries := by
  unfold partOf? at h
  split at h
  · rename_i key
    obtain ⟨f, hf, h⟩ := Option.bind_eq_some_iff.mp h
    have hchild : found.child config.resolve key = .ok f := eq_ok_of_toOption hf
    unfold Section.of? at h
    split at h
    · rename_i hitem
      cases h
      have hne : found.place ≠ [] := by
        refine hfound.resolve_right fun hplain => ?_
        have hplain' := isPlain_child hplain hchild
        rw [hitem] at hplain'
        cases hplain'
      exact ⟨hne, ⟨key, rfl⟩, f, placed_child (placed_resolve hconfig) (fun _ => hne) hchild, rfl, hitem⟩
    · cases h
  · cases h

end

/-! ### Making layouts, filters and handlers -/

namespace HasLoggers

variable {names : List String} {config config' : ConfigItem} (h : HasLoggers names config)
include h

theorem of_makeAll {part : String} {make? : Section → Option ConfigItem} {fault : Value → ConfigError}
    (hmake : makeAll part make? fault config = .ok config') : HasLoggers names config' := by
  obtain ⟨entries, hconfig⟩ := h.exists_entries
  obtain ⟨found, hfound, hmake⟩ := bind_eq_ok_iff.mp hmake
  obtain ⟨listed, -, hmake⟩ := bind_eq_ok_iff.mp hmake
  have hplace := place_of_sectionOf hconfig hfound
  refine of_foldlM_eq_ok (fun name _ c c' (hc : HasLoggers names c) hstep => ?_) h hmake
  obtain ⟨entries', hconfig'⟩ := hc.exists_entries
  split at hstep
  · rename_i made hmade
    cases hstep
    obtain ⟨part, hpart, -⟩ := Option.bind_eq_some_iff.mp hmade
    obtain ⟨hne, ⟨key, rfl⟩, -⟩ := placed_of_partOf? hconfig' hplace hpart
    exact hc.replaceAt_append hne key made
  · cases hstep

theorem of_makeNamed {found : Found} {name : ConfigItem} {s s' : LogState} (hplace : found.place ≠ [] ∨ found.item.isPlain = true)
    (hmake : makeNamed found config name s = .ok (some config') s') : HasLoggers names config' := by
  obtain ⟨entries, hconfig⟩ := h.exists_entries
  unfold makeNamed at hmake
  split at hmake
  · rename_i key
    cases hpart : partOf? config found (.scalar key) with
    | none =>
      simp only [hpart] at hmake
      cases hmake
    | some part =>
      obtain ⟨hne, -, f, hplaced, hf, hitem⟩ := placed_of_partOf? hconfig hplace hpart
      simp only [hpart] at hmake
      obtain ⟨s₀, s₁, hget, hmake⟩ := exists_of_bind_eq_ok hmake
      cases hresult : makeHandler part s₀.files with
      | waiting =>
        simp only [hresult] at hmake
        cases hmake
      | failed files =>
        simp only [hresult] at hmake
        obtain ⟨u, s₂, -, hmake⟩ := exists_of_bind_eq_ok hmake
        cases hmake
      | made handler files =>
        simp only [hresult] at hmake
        obtain ⟨u, s₂, -, hmake⟩ := exists_of_bind_eq_ok hmake
        obtain ⟨s₃, s₄, -, hmake⟩ := exists_of_bind_eq_ok hmake
        obtain ⟨u', s₅, -, hmake⟩ := exists_of_bind_eq_ok hmake
        cases hmake
        have hrest := h.replaceAt_part hplaced hitem
        rw [hf] at hrest
        exact hrest.replaceAt_append hne _ _
  · cases hmake

theorem of_makeNamedList {found : Found} {listed waiting : List ConfigItem} {s s' : LogState}
    (hplace : found.place ≠ [] ∨ found.item.isPlain = true)
    (hmake : makeNamedList found listed config s = .ok (config', waiting) s') : HasLoggers names config' := by
  induction listed generalizing config config' waiting s s' with
  | nil =>
    cases hmake
    exact h
  | cons name rest ih =>
    obtain ⟨made, s₁, hfirst, hmake⟩ := exists_of_bind_eq_ok hmake
    cases made with
    | some config₁ => exact ih (h.of_makeNamed hplace hfirst) hmake
    | none =>
      obtain ⟨⟨config₁, waiting₁⟩, s₂, hrest, hmake⟩ := exists_of_bind_eq_ok hmake
      cases hmake
      exact ih h hrest

theorem of_makeHandlers {s s' : LogState} (hmake : makeHandlers config s = .ok config' s') : HasLoggers names config' := by
  obtain ⟨entries, hconfig⟩ := h.exists_entries
  obtain ⟨found, hfound, hmake⟩ := exists_of_lift_bind_eq_ok hmake
  obtain ⟨listed, -, hmake⟩ := exists_of_lift_bind_eq_ok hmake
  obtain ⟨sorted, -, hmake⟩ := exists_of_lift_bind_eq_ok hmake
  obtain ⟨⟨config₁, waiting⟩, s₁, hfirst, hmake⟩ := exists_of_bind_eq_ok hmake
  obtain ⟨⟨config₂, waiting'⟩, s₂, hsecond, hmake⟩ := exists_of_bind_eq_ok hmake
  have hplace := place_of_sectionOf hconfig hfound
  have h₂ := (h.of_makeNamedList hplace hfirst).of_makeNamedList hplace hsecond
  cases waiting' with
  | nil =>
    cases hmake
    exact h₂
  | cons name rest => cases hmake

end HasLoggers

end ApiDoc.Logging
