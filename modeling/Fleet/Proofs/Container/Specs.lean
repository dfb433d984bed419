import Fleet.Container.Pair
import Fleet.Container.Pass
import Fleet.Module.Resolve
import Fleet.Proofs.Module.Assignment

/-!
# The containers of modules

A deployed module has a container of its own, and one for its sidecar if it has one (`specsOf`).
Between them they publish the host ports of the module, and two labels tell them apart. Names do so
only as far as `name_eq_cases` says: the name of a module may be what the sidecar of another module
is called, and then the two containers have one name.
-/

namespace Fleet

namespace Pass

/-- The deployable modules of a pass are resolved modules. -/
theorem mem_values_of_mem_deployable {kind : ModuleKind} {resolved : Table String Descriptor}
    {d : Descriptor} (h : d ∈ (ofKind kind resolved).deployable) :
    d ∈ resolved.values ∧ d.flags.deployModule = true := by
  obtain ⟨hmem, hdeploy⟩ := List.mem_filter.1 h
  obtain ⟨e, he, rfl⟩ := List.mem_map.1 hmem
  exact ⟨List.mem_map.2 ⟨e, (List.mem_filter.1 he).1, rfl⟩, hdeploy⟩

end Pass

namespace Blueprint

/-- The containers of a module: its own, and that of its sidecar. -/
def specsOf (b : Blueprint) (d : Descriptor) : List ContainerSpec :=
  b.moduleSpec d :: (b.sidecarSpec? d).toList

variable {b : Blueprint} {d d' : Descriptor} {spec spec' : ContainerSpec}

/-- The host ports of a module's containers are the ports that the module publishes. -/
theorem hostPorts_specsOf (hdeploy : d.flags.deployModule = true) :
    (b.specsOf d).flatMap ContainerSpec.hostPorts = d.published := by
  have hpublished : d.published = d.port :: d.sidecarPort?.toList := if_pos hdeploy
  rw [hpublished]
  cases h : d.sidecarPort? <;>
    simp [specsOf, sidecarSpec?, h, ContainerSpec.hostPorts, moduleSpec, sidecarSpec, binding]

theorem find?_labels_module (sidecar : Bool) :
    (b.labels d sidecar).find? Label.module = some d.name := by
  simp [labels, Table.ofList, Table.find?_insert, Label.module, Label.kind, Label.profile,
    Label.sidecar]

theorem find?_labels_sidecar (sidecar : Bool) :
    (b.labels d sidecar).find? Label.sidecar = some (if sidecar then "true" else "false") := by
  simp [labels, Table.ofList, Table.find?_insert]

theorem find?_labels_kind (sidecar : Bool) :
    (b.labels d sidecar).find? Label.kind = some d.kind.text := by
  simp [labels, Table.ofList, Table.find?_insert, Label.kind, Label.profile, Label.sidecar]

theorem find?_labels_profile (sidecar : Bool) :
    (b.labels d sidecar).find? Label.profile = some b.naming.profile := by
  simp [labels, Table.ofList, Table.find?_insert, Label.profile, Label.sidecar]

/-- A container of a module is the module's own, or that of its sidecar. -/
theorem mem_specsOf_iff : spec ∈ b.specsOf d ↔
    spec = b.moduleSpec d ∨ ∃ port, d.sidecarPort? = some port ∧ spec = b.sidecarSpec d port := by
  simp only [specsOf, sidecarSpec?, List.mem_cons, Option.mem_toList,
    Option.map_eq_some_iff, eq_comm (b := spec)]

theorem module_label (h : spec ∈ b.specsOf d) : spec.labels.find? Label.module = some d.name := by
  rcases mem_specsOf_iff.1 h with rfl | ⟨port, _, rfl⟩
  · exact find?_labels_module false
  · exact find?_labels_module true

/-- The label of a module's own container is not that of a sidecar. -/
theorem sidecar_label_ne (d d' : Descriptor) (port : Port) :
    (b.moduleSpec d).labels.find? Label.sidecar ≠
      (b.sidecarSpec d' port).labels.find? Label.sidecar := by
  have hmodule : (b.moduleSpec d).labels.find? Label.sidecar = some "false" :=
    find?_labels_sidecar false
  have hsidecar : (b.sidecarSpec d' port).labels.find? Label.sidecar = some "true" :=
    find?_labels_sidecar true
  rw [hmodule, hsidecar]
  decide

theorem moduleSpec_ne_sidecarSpec (d d' : Descriptor) (port : Port) :
    b.moduleSpec d ≠ b.sidecarSpec d' port := fun heq =>
  sidecar_label_ne d d' port (congrArg (fun s => s.labels.find? Label.sidecar) heq)

/-- The containers of a module are told apart by whether they are the sidecar. -/
theorem eq_of_sidecar_label (h : spec ∈ b.specsOf d) (h' : spec' ∈ b.specsOf d)
    (hlabel : spec.labels.find? Label.sidecar = spec'.labels.find? Label.sidecar) :
    spec = spec' := by
  rcases mem_specsOf_iff.1 h with rfl | ⟨port, hport, rfl⟩ <;>
    rcases mem_specsOf_iff.1 h' with rfl | ⟨port', hport', rfl⟩
  · rfl
  · exact absurd hlabel (sidecar_label_ne d d port')
  · exact absurd hlabel.symm (sidecar_label_ne d d port)
  · cases hport.symm.trans hport'
    rfl

theorem moduleSpec_name (d : Descriptor) : (b.moduleSpec d).name = b.naming.stem ++ d.name := rfl

theorem sidecarSpec_name (d : Descriptor) (port : Port) :
    (b.sidecarSpec d port).name = b.naming.stem ++ (d.name ++ Naming.sidecarEnding) :=
  String.append_assoc

/-- Containers are named and labelled for their profile, and labelled for their pass. -/
theorem stem_and_labels (h : spec ∈ b.specsOf d) :
    (∃ rest, spec.name = b.naming.stem ++ rest) ∧
      spec.labels.find? Label.profile = some b.naming.profile ∧
      spec.labels.find? Label.kind = some d.kind.text := by
  rcases mem_specsOf_iff.1 h with rfl | ⟨port, _, rfl⟩
  · exact ⟨⟨_, moduleSpec_name d⟩, find?_labels_profile false, find?_labels_kind false⟩
  · exact ⟨⟨_, sidecarSpec_name d port⟩, find?_labels_profile true, find?_labels_kind true⟩

/-- Containers of one name belong to modules of one name, or one is the module's own and the other
that of a sidecar. -/
theorem name_eq_cases (h : spec ∈ b.specsOf d) (h' : spec' ∈ b.specsOf d')
    (hname : spec.name = spec'.name) :
    (d.name = d'.name ∧ spec.labels.find? Label.sidecar = spec'.labels.find? Label.sidecar) ∨
      (spec = b.moduleSpec d ∧ d.name = d'.name ++ Naming.sidecarEnding ∧
        ∃ port, d'.sidecarPort? = some port ∧ spec' = b.sidecarSpec d' port) ∨
      (spec' = b.moduleSpec d' ∧ d'.name = d.name ++ Naming.sidecarEnding ∧
        ∃ port, d.sidecarPort? = some port ∧ spec = b.sidecarSpec d port) := by
  rcases mem_specsOf_iff.1 h with rfl | ⟨port, hport, rfl⟩ <;>
    rcases mem_specsOf_iff.1 h' with rfl | ⟨port', hport', rfl⟩
  · rw [moduleSpec_name, moduleSpec_name] at hname
    refine .inl ⟨(String.append_right_inj _).1 hname, ?_⟩
    exact (find?_labels_sidecar false).trans (find?_labels_sidecar false).symm
  · rw [moduleSpec_name, sidecarSpec_name] at hname
    exact .inr (.inl ⟨rfl, (String.append_right_inj _).1 hname, port', hport', rfl⟩)
  · rw [moduleSpec_name, sidecarSpec_name] at hname
    exact .inr (.inr ⟨rfl, ((String.append_right_inj _).1 hname).symm, port, hport, rfl⟩)
  · rw [sidecarSpec_name, sidecarSpec_name] at hname
    refine .inl ⟨(String.append_left_inj _).1 ((String.append_right_inj _).1 hname), ?_⟩
    exact (find?_labels_sidecar true).trans (find?_labels_sidecar true).symm

end Blueprint

end Fleet
