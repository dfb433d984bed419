import Fleet.Container.Environment
import Fleet.Proofs.Table
import Mathlib.Data.List.Induction

/-!
# What environments come to

An environment that is laid out layer by layer is read off its layers as one list: keys in capitals,
each key where it is first, with the value that it has last (`ofLayers_eq`).

So of the environments of a module and its sidecar it can be said who decides a key
(`environments_laidOut`): what is declared for the container, else the wiring that is applied, else
the common environment and that of sidecars. Keys meet in capitals, within a layer as well as across
layers.
-/

namespace Fleet

namespace Environment

open Table (lastUnder lastUnder_append isSome_lastUnder)

/-- Entries with their keys in capitals. -/
def capitals (es : Entries) : Entries := es.map fun e => (Text.upper e.1, e.2)

/-- The keys of entries, each where it is first. -/
def places (es : Entries) : List String := (es.map (·.1)).eraseDups

/-- Entries with each key once: where it is first, with the value that it has last. -/
def settled (es : Entries) : Entries :=
  (places es).map fun key => (key, (lastUnder es key).getD "")

theorem keys_settled (es : Entries) : (settled es).map (·.1) = places es := by
  rw [settled, List.map_map]
  exact List.map_id _

theorem mem_places {es : Entries} {key : String} : key ∈ places es ↔ (lastUnder es key).isSome := by
  rw [places, List.mem_eraseDups, isSome_lastUnder]

theorem places_concat (es : Entries) (e : String × String) :
    places (es ++ [e]) = if e.1 ∈ places es then places es else places es ++ [e.1] := by
  have hmem : e.1 ∈ places es ↔ e.1 ∈ es.map (·.1) := List.mem_eraseDups
  rw [places, List.map_append, List.eraseDups_append]
  split
  · next h => simp [List.removeAll, hmem.1 h, places]
  · next h => simp [List.removeAll, hmem.not.1 h, places, List.eraseDups_cons]

theorem nodup_places (es : Entries) : (places es).Nodup := by
  induction es using List.reverseRecOn with
  | nil => exact List.nodup_nil
  | append_singleton es e ih =>
    rw [places_concat]
    split
    · exact ih
    · next h => exact List.concat_eq_append ▸ ih.concat h

/-! ## Setting one key -/

theorem setUpper_of_not_mem {key value : String} :
    ∀ {es : Entries}, key ∉ es.map (·.1) → setUpper key value es = es ++ [(key, value)]
  | [], _ => rfl
  | (k, v) :: rest, h => by
    have hne : k ≠ key := Ne.symm (List.ne_of_not_mem_cons h)
    have hrest : key ∉ rest.map (·.1) := List.not_mem_of_not_mem_cons h
    rw [setUpper, if_neg hne, setUpper_of_not_mem hrest, List.cons_append]

/-- A key that is set changes its value in its place. -/
theorem setUpper_of_mem {key value : String} {valueOf : String → String} :
    ∀ {keys : List String}, keys.Nodup → key ∈ keys →
      setUpper key value (keys.map fun k => (k, valueOf k)) =
        keys.map fun k => (k, if key = k then value else valueOf k)
  | [], _, h => absurd h List.not_mem_nil
  | k :: rest, hnodup, h => by
    obtain ⟨hother, hrest⟩ := List.nodup_cons.1 hnodup
    rw [List.map_cons, List.map_cons, setUpper]
    by_cases hk : k = key
    · subst hk
      rw [if_pos rfl, if_pos rfl]
      refine congrArg _ (List.map_congr_left fun k' hk' => ?_)
      have hne : k ≠ k' := fun heq => hother (heq ▸ hk')
      rw [if_neg hne]
    · have hmem : key ∈ rest := (List.mem_cons.1 h).resolve_left (Ne.symm hk)
      rw [if_neg hk, if_neg (Ne.symm hk), setUpper_of_mem hrest hmem]

theorem setUpper_settled (es : Entries) (e : String × String) :
    setUpper e.1 e.2 (settled es) = settled (es ++ [e]) := by
  have hlast : ∀ k, lastUnder (es ++ [e]) k = if e.1 = k then some e.2 else lastUnder es k := by
    intro k
    rw [lastUnder_append, Table.lastUnder_cons]
    split <;> rfl
  have hvalues : ∀ k, (if e.1 = k then e.2 else (lastUnder es k).getD "") =
      (lastUnder (es ++ [e]) k).getD "" := by
    intro k
    rw [hlast]
    split <;> rfl
  by_cases h : e.1 ∈ places es
  · rw [settled, setUpper_of_mem (nodup_places es) h, settled, places_concat, if_pos h]
    simp only [hvalues]
  · have hothers : ∀ k ∈ places es, (lastUnder (es ++ [e]) k).getD "" =
        (lastUnder es k).getD "" := by
      intro k hk
      have hne : e.1 ≠ k := fun heq => h (heq ▸ hk)
      rw [hlast, if_neg hne]
    have hothers' := List.map_congr_left fun k hk => congrArg (Prod.mk k) (hothers k hk)
    have hnew : (lastUnder (es ++ [e]) e.1).getD "" = e.2 := by rw [hlast, if_pos rfl]; rfl
    rw [setUpper_of_not_mem (keys_settled es ▸ h), settled, settled, places_concat, if_neg h,
      List.map_append, hothers', List.map_singleton, hnew]

/-! ## Laying layers -/

/-- Layers come to what their entries come to. -/
theorem ofLayers_eq (layers : List Entries) :
    ofLayers layers = settled (capitals layers.flatten) := by
  have hlay : ∀ (layer es : Entries),
      lay (settled es) layer = settled (es ++ capitals layer) := by
    intro layer
    induction layer with
    | nil => exact fun es => congrArg settled (List.append_nil es).symm
    | cons e rest ih =>
      intro es
      have hfirst : set (settled es) e.1 e.2 = settled (es ++ capitals [e]) :=
        setUpper_settled es (Text.upper e.1, e.2)
      show lay (set (settled es) e.1 e.2) rest = _
      rw [hfirst, ih, List.append_assoc]
      rfl
  have hlayers : ∀ (layers : List Entries) (es : Entries),
      layers.foldl lay (settled es) = settled (es ++ capitals layers.flatten) := by
    intro layers
    induction layers with
    | nil => exact fun es => congrArg settled (List.append_nil es).symm
    | cons layer rest ih =>
      intro es
      rw [List.foldl_cons, hlay, ih, List.append_assoc, List.flatten_cons, capitals, capitals,
        capitals, List.map_append]
  exact hlayers layers []

/-- Keys meet in capitals. -/
example : ofLayers [[("db_host", "postgres"), ("Path", "/")], [("DB_HOST", "replica")]] =
    [("DB_HOST", "replica"), ("PATH", "/")] := by decide +kernel

theorem mem_settled {es : Entries} {key value : String} :
    (key, value) ∈ settled es ↔ lastUnder es key = some value := by
  rw [settled, List.mem_map]
  constructor
  · rintro ⟨k, hk, heq⟩
    obtain ⟨v, hv⟩ := Option.isSome_iff_exists.1 (mem_places.1 hk)
    cases heq
    rw [hv, Option.getD_some]
  · intro h
    exact ⟨key, mem_places.2 (by simp [h]), by rw [h, Option.getD_some]⟩

/-- An environment is laid out from defaults, wiring and declarations, in this order: each key in
capitals, where it is first. A declared key has the value that is declared last, another one that
the wiring sets has the value that is wired last, and only the others have their default. -/
structure LaidOut (environment : List String) (defaults wiring declared : Entries) : Prop where
  eq : environment = (settled (capitals (defaults ++ wiring ++ declared))).map
    fun (key, value) => key ++ "=" ++ value
  once : ((settled (capitals (defaults ++ wiring ++ declared))).map (·.1)).Nodup
  decided : ∀ key value, (key, value) ∈ settled (capitals (defaults ++ wiring ++ declared)) ↔
    (lastUnder (capitals declared) key).or
      ((lastUnder (capitals wiring) key).or (lastUnder (capitals defaults) key)) = some value

theorem laidOut_ofLayers {layers : List Entries} {defaults wiring declared : Entries}
    (h : layers.flatten = defaults ++ wiring ++ declared) :
    LaidOut (render (ofLayers layers)) defaults wiring declared where
  eq := by rw [ofLayers_eq, h]; rfl
  once := by
    rw [keys_settled]
    exact nodup_places _
  decided key value := by
    rw [mem_settled, capitals, List.map_append, List.map_append, lastUnder_append, lastUnder_append]
    rfl

end Environment

namespace EnvironmentContext

open Environment (Entries LaidOut laidOut_ofLayers)

/-! ## The environments of a module and its sidecar -/

/-- The wiring of the secret store, if the module uses it and a token is known. -/
def storeWiring (x : EnvironmentContext) (d : Descriptor) : Entries :=
  if d.flags.useVault then
    x.vaultToken.toList.flatMap fun token =>
      [("SECRET_STORE_TYPE", "VAULT"), ("SECRET_STORE_VAULT_TOKEN", token.secret),
        ("SECRET_STORE_VAULT_ADDRESS", x.vaultUrl)]
  else []

/-- The wiring of the identity provider. -/
def providerWiring (x : EnvironmentContext) : Entries :=
  [("KC_URL", x.identity.internalUrl), ("KC_ADMIN_CLIENT_ID", x.identity.adminClientId),
    ("KC_SERVICE_CLIENT_ID", x.identity.serviceClientId),
    ("KC_LOGIN_CLIENT_SUFFIX", x.identity.loginClientSuffix)]

/-- The wiring of a module. -/
def moduleWiring (x : EnvironmentContext) (d : Descriptor) : Entries :=
  x.storeWiring d ++
    (if d.flags.useGatewayUrl then x.providerWiring ++ [("OKAPI_URL", x.gatewayUrl)] else []) ++
    [("SERVER_PORT", "8081"), ("MODULE_NAME", d.name), ("MODULE_VERSION", d.version)] ++
    if d.flags.disableSystemUser then [("SYSTEM_USER_ENABLED", "false")] else []

/-- The wiring of a sidecar. -/
def sidecarWiring (x : EnvironmentContext) (d : Descriptor) (moduleHost sidecarHost : String) :
    Entries :=
  x.storeWiring d ++ x.providerWiring ++
    [("MODULE_NAME", d.name), ("MODULE_VERSION", d.version),
      ("MODULE_URL", "http://" ++ moduleHost ++ ":8081"),
      ("SIDECAR_URL", "http://" ++ sidecarHost ++ ":8081"), ("SIDECAR_NAME", sidecarHost)]

theorem addressOf_eq (host : String) : addressOf host = "http://" ++ host ++ ":8081" := by
  have hport : ":" ++ toString containerPort = ":8081" := by decide +kernel
  rw [addressOf, String.append_assoc, hport]

theorem vaultLayer_eq (x : EnvironmentContext) (d : Descriptor) :
    x.vaultLayer d = x.storeWiring d := by
  unfold vaultLayer storeWiring
  cases x.vaultToken <;> rfl

/-- The environments of a module and its sidecar are laid out from the common environment (and that
of sidecars), their wiring, and what is declared for them. -/
theorem environments_laidOut (x : EnvironmentContext) (d : Descriptor)
    (moduleHost sidecarHost : String) :
    LaidOut (x.ofModule d) x.common.entries (x.moduleWiring d) d.environment.entries ∧
      LaidOut (x.ofSidecar d moduleHost sidecarHost) (x.common.entries ++ x.sidecars.entries)
        (x.sidecarWiring d moduleHost sidecarHost) d.sidecarEnvironment.entries := by
  constructor
  · refine laidOut_ofLayers ?_
    rw [moduleLayers, vaultLayer_eq, moduleWiring]
    simp only [List.flatten_cons, List.flatten_nil, List.append_nil, List.append_assoc]
    rfl
  · refine laidOut_ofLayers ?_
    rw [sidecarLayers, vaultLayer_eq, pairLayer, addressOf_eq, addressOf_eq, sidecarWiring]
    simp only [List.flatten_cons, List.flatten_nil, List.append_nil, List.append_assoc]
    rfl

end EnvironmentContext

end Fleet
