import Fleet.Deployment
import Fleet.Proofs.Container.Specs
import Fleet.Proofs.Text.Pieces
import Fleet.Proofs.Text.Utf8
import Fleet.Site

/-!
# Labels behind docker

Docker shows the labels of a container in one column, pairs joined by commas, and it escapes nothing.
Its order is docker's, and an image may have labels of its own, whose values may hold commas and
equals signs. So the column falls into fragments, of which some are no labels at all (`ShowsLabels`).
The keys of a platform's labels are reserved, and as long as no fragment of a foreign label begins
with such a key, what is read under reserved keys is what the container was created with
(`find?_readLabels`). By these labels the passes find their containers again (`labels_survive`).
-/

namespace Fleet

namespace Docker

open Text (CutAt Trimmed)

/-! ## Columns of labels -/

/-- What the keys of a platform's labels begin with. -/
def labelStem : String := "flotilla."

/-- A key is one that a platform's label may have. -/
def Reserved (key : String) : Prop := labelStem.toList <+: key.toList

instance : DecidablePred Reserved := fun key =>
  inferInstanceAs (Decidable (labelStem.toList <+: key.toList))

/-- A fragment is not taken for a platform's label: what stands before its first equals sign is no
reserved key, also without the blanks at its ends. -/
def Foreign (fragment : String) : Prop :=
  ∀ (front back : List Char) (key : String),
    CutAt ['='] fragment.toList front back → Trimmed front key.toList → ¬ Reserved key

/-- A label as docker is given it, and as it shows it. -/
def labelText (label : String × String) : String := label.1 ++ "=" ++ label.2

/-- A column shows the labels that a container was created with: in any order, and between labels
that it inherited, of which no fragment is taken for a platform's label. -/
def ShowsLabels (own : Texts) (column : String) : Prop :=
  ∃ labels inherited : List (String × String),
    column = ",".intercalate (labels.map labelText) ∧ labels.Perm (own.entries ++ inherited) ∧
    ∀ label ∈ inherited, ∃ fragments, labelText label = ",".intercalate fragments ∧
      ∀ fragment ∈ fragments, ',' ∉ fragment.toList ∧ Foreign fragment

/-- A label with a reserved key that can be read again wherever it stands in a column. -/
structure Plain (label : String × String) : Prop where
  reserved : Reserved label.1
  trimmed : Trimmed label.1.toList label.1.toList
  key : ',' ∉ label.1.toList ∧ '=' ∉ label.1.toList
  value : ',' ∉ label.2.toList

/-! ## Reading a column -/

/-- The label that a fragment is taken for. -/
def labelOf? (fragment : String) : Option (String × String) :=
  (Text.cut? "=" fragment).map fun cut => (Text.trim cut.1, cut.2)

/-- The labels that the fragments of a text are taken for. -/
def labelsIn (s : String) : List (String × String) := (Text.splitAt ',' s).filterMap labelOf?

theorem readLabels_eq (column : String) : readLabels column = Table.ofList (labelsIn column) := rfl

variable {label : String × String} {own : Texts} {column key : String}

theorem labelOf?_eq_some_iff {fragment : String} : labelOf? fragment = some label ↔
    ∃ front, CutAt ['='] fragment.toList front label.2.toList ∧ Trimmed front label.1.toList := by
  rw [labelOf?, Option.map_eq_some_iff]
  constructor
  · rintro ⟨⟨front, back⟩, hcut, rfl⟩
    refine ⟨front.toList, Text.cut?_eq_some_iff.1 hcut, Text.trimChars_eq_iff.1 ?_⟩
    exact String.toList_ofList.symm
  · rintro ⟨front, hcut, htrimmed⟩
    refine ⟨(String.ofList front, label.2), Text.cut?_eq_some_iff.2 (by simpa using hcut), ?_⟩
    have htrim : Text.trim (String.ofList front) = label.1 := by
      rw [Text.trim, String.toList_ofList, Text.trimChars_eq_iff.2 htrimmed, String.ofList_toList]
    exact Prod.ext htrim rfl

theorem foreign_iff {fragment : String} :
    Foreign fragment ↔ ∀ e ∈ labelOf? fragment, ¬ Reserved e.1 := by
  constructor
  · intro h e he
    obtain ⟨front, hcut, htrimmed⟩ := labelOf?_eq_some_iff.1 he
    exact h front _ _ hcut htrimmed
  · intro h front back key hcut htrimmed
    refine h (key, String.ofList back) (labelOf?_eq_some_iff.2 ⟨front, ?_, htrimmed⟩)
    rwa [String.toList_ofList]

theorem labelsIn_intercalate (texts : List String) :
    labelsIn (",".intercalate texts) = texts.flatMap labelsIn := by
  by_cases hne : texts = []
  · subst hne
    decide
  · rw [labelsIn]
    show (Text.splitAt ',' ((String.ofList [',']).intercalate texts)).filterMap labelOf? = _
    rw [Text.splitAt_intercalate ',' hne, List.filterMap_flatMap]
    rfl

theorem labelsIn_of_not_mem {s : String} (h : ',' ∉ s.toList) : labelsIn s = (labelOf? s).toList := by
  rw [labelsIn, Text.splitAt_of_not_mem h]
  cases hlabel : labelOf? s <;> simp [hlabel]

/-- A plain label is read as it was written. -/
theorem Plain.labelsIn_labelText (h : Plain label) : labelsIn (labelText label) = [label] := by
  have hcomma : ',' ∉ (labelText label).toList := by simp [labelText, h.key.1, h.value]
  have hlabel : labelOf? (labelText label) = some label := by
    refine labelOf?_eq_some_iff.2 ⟨_, Text.cutAt_singleton.2 ⟨?_, h.key.2⟩, h.trimmed⟩
    simp [labelText]
  rw [labelsIn_of_not_mem hcomma, hlabel, Option.toList_some]

/-- Nothing is read under a reserved key of what is not taken for a platform's label. -/
theorem not_reserved_of_foreign {fragments : List String}
    (h : ∀ fragment ∈ fragments, ',' ∉ fragment.toList ∧ Foreign fragment) :
    ∀ e ∈ labelsIn (",".intercalate fragments), ¬ Reserved e.1 := by
  intro e he
  rw [labelsIn_intercalate, List.mem_flatMap] at he
  obtain ⟨fragment, hfragment, he⟩ := he
  obtain ⟨hcomma, hforeign⟩ := h fragment hfragment
  rw [labelsIn_of_not_mem hcomma, Option.mem_toList] at he
  exact foreign_iff.1 hforeign e he

/-- Under reserved keys, the labels in a column are those that it shows. -/
theorem filter_labelsIn (hown : ∀ label ∈ own.entries, Plain label)
    (hcolumn : ShowsLabels own column) :
    ((labelsIn column).filter fun e => Reserved e.1).Perm own.entries := by
  obtain ⟨labels, inherited, rfl, hperm, hinherited⟩ := hcolumn
  let reserved (label : String × String) : List (String × String) :=
    (labelsIn (labelText label)).filter fun e => Reserved e.1
  have hfilter : (labelsIn (",".intercalate (labels.map labelText))).filter
      (fun e => Reserved e.1) = labels.flatMap reserved := by
    rw [labelsIn_intercalate, List.filter_flatMap, List.flatMap_map]
  have hplain : own.entries.flatMap reserved = own.entries := by
    refine (List.flatMap_congr fun label hlabel => ?_).trans (List.flatMap_singleton' _)
    have h := hown label hlabel
    simp only [reserved, h.labelsIn_labelText, List.filter_singleton, h.reserved, decide_true]
    rfl
  have hforeign : inherited.flatMap reserved = [] := by
    refine List.flatMap_eq_nil_iff.2 fun label hlabel => List.filter_eq_nil_iff.2 fun e he => ?_
    obtain ⟨fragments, htext, hfragments⟩ := hinherited label hlabel
    rw [htext] at he
    simpa using not_reserved_of_foreign hfragments e he
  have hall := hperm.flatMap_right reserved
  rwa [List.flatMap_append, hplain, hforeign, List.append_nil, ← hfilter] at hall

/-- Under a reserved key, what is read of a column is what it shows. -/
theorem find?_readLabels (hown : ∀ label ∈ own.entries, Plain label)
    (hcolumn : ShowsLabels own column) (hkey : Reserved key) :
    (readLabels column).find? key = own.find? key := by
  have hfilter := Table.lastUnder_filter (labelsIn column) (p := fun e => Reserved e.1) (k := key)
    fun _ => decide_eq_true hkey
  rw [readLabels_eq, Table.find?_ofList, ← hfilter,
    Table.lastUnder_eq_of_perm own.nodup_keys (filter_labelsIn hown hcolumn),
    Table.lastUnder_of_ascending key own.ascending]
  rfl

/-! ## The labels of a platform's containers -/

/-- The keys of a container's labels. -/
def labelKeys : List String := [Label.module, Label.kind, Label.profile, Label.sidecar]

/-- A text consists of characters that docker accepts in the names of containers. -/
def Nameable (name : String) : Prop :=
  ∀ c ∈ name.toList, c.isAlphanum = true ∨ c = '_' ∨ c = '.' ∨ c = '-'

instance : DecidablePred Nameable := fun name =>
  List.decidableBAll (fun c : Char => c.isAlphanum = true ∨ c = '_' ∨ c = '.' ∨ c = '-') name.toList

variable {b : Blueprint} {d : Descriptor} {spec : ContainerSpec}

theorem Nameable.not_comma {name : String} (h : Nameable name) : ',' ∉ name.toList := fun hmem => by
  have hcomma := h ',' hmem
  revert hcomma
  decide

theorem labels_of_mem_specsOf (h : spec ∈ b.specsOf d) :
    ∃ sidecar, spec.labels = b.labels d sidecar := by
  rcases Blueprint.mem_specsOf_iff.1 h with rfl | ⟨port, _, rfl⟩
  · exact ⟨false, rfl⟩
  · exact ⟨true, rfl⟩

theorem isSome_find?_labels {sidecar : Bool} :
    ((b.labels d sidecar).find? key).isSome ↔ key ∈ labelKeys := by
  rw [Blueprint.labels, Table.isSome_find?_ofList]
  simp [labelKeys, eq_comm]

theorem not_comma_of_find?_labels {sidecar : Bool} {value : String}
    (hprofile : Nameable b.naming.profile) (hmodule : Nameable d.name)
    (hfind : (b.labels d sidecar).find? key = some value) : ',' ∉ value.toList := by
  rw [Blueprint.labels, Table.find?_ofList, Table.lastUnder_eq_some_iff (by simp; decide)] at hfind
  simp only [List.mem_cons, List.not_mem_nil, or_false, Prod.mk.injEq] at hfind
  rcases hfind with ⟨_, rfl⟩ | ⟨_, rfl⟩ | ⟨_, rfl⟩ | ⟨_, rfl⟩
  · exact hmodule.not_comma
  · cases d.kind <;> decide
  · exact hprofile.not_comma
  · cases sidecar <;> decide

/-- If its profile and its module have names that docker accepts, a container's labels are plain. -/
theorem plain_of_mem_labels (hprofile : Nameable b.naming.profile) (hmodule : Nameable d.name)
    (hspec : spec ∈ b.specsOf d) : ∀ label ∈ spec.labels.entries, Plain label := by
  have hkeys : ∀ key ∈ labelKeys, Reserved key ∧
      Text.trimChars key.toList = key.toList ∧ ',' ∉ key.toList ∧ '=' ∉ key.toList := by decide
  obtain ⟨sidecar, hlabels⟩ := labels_of_mem_specsOf hspec
  rw [hlabels]
  intro label hlabel
  have hfind := Table.mem_entries_iff.1 hlabel
  have hmem : label.1 ∈ labelKeys := isSome_find?_labels.1 (Option.isSome_iff_exists.2 ⟨_, hfind⟩)
  obtain ⟨hreserved, htrimmed, hkey⟩ := hkeys _ hmem
  exact ⟨hreserved, Text.trimChars_eq_iff.1 htrimmed, hkey,
    not_comma_of_find?_labels hprofile hmodule hfind⟩

theorem find?_readLabels_spec (hprofile : Nameable b.naming.profile) (hmodule : Nameable d.name)
    (hspec : spec ∈ b.specsOf d) (hcolumn : ShowsLabels spec.labels column) (hkey : Reserved key) :
    (readLabels column).find? key = spec.labels.find? key :=
  find?_readLabels (plain_of_mem_labels hprofile hmodule hspec) hcolumn hkey

/-- What is read of a column, as far as its keys are reserved: what a container was created with,
under the four keys of its labels. -/
structure Survive (own read : Texts) : Prop where
  kept : ∀ key ∈ labelKeys, ∃ value, own.find? key = some value ∧ read.find? key = some value
  nothingElse : ∀ key, Reserved key → key ∉ labelKeys → read.find? key = none

theorem survive_readLabels (hprofile : Nameable b.naming.profile) (hmodule : Nameable d.name)
    (hspec : spec ∈ b.specsOf d) (hcolumn : ShowsLabels spec.labels column) :
    Survive spec.labels (readLabels column) := by
  have hread : ∀ key, Reserved key → (readLabels column).find? key = spec.labels.find? key :=
    fun _ => find?_readLabels_spec hprofile hmodule hspec hcolumn
  obtain ⟨sidecar, hlabels⟩ := labels_of_mem_specsOf hspec
  have hreserved : ∀ key ∈ labelKeys, Reserved key := by decide
  refine ⟨fun key hkey => ?_, fun key hkey hother => ?_⟩
  · obtain ⟨value, hvalue⟩ := Option.isSome_iff_exists.1 (isSome_find?_labels.2 hkey)
    rw [hread key (hreserved key hkey), hlabels]
    exact ⟨value, hvalue, hvalue⟩
  · rw [hread key hkey, hlabels, ← Option.not_isSome_iff_eq_none, isSome_find?_labels]
    exact hother

/-! ## Lines of a listing -/

/-- A line is an object whose label column is a text. -/
def HasColumn (line column : String) : Prop :=
  ∃ ms, Json.parseMembers? columns line = some ms ∧
    Json.lastMember "Labels" ms = some (.string column)

theorem labels_of_readLine? {line : String} {shown : ContainerSummary}
    (hcolumn : HasColumn line column) (hread : readLine? line = some shown) :
    shown.labels = readLabels column := by
  obtain ⟨ms, hmembers, hlabels⟩ := hcolumn
  have hmember : Json.withDefault "Labels" "" Json.text? ms = some column := by
    rw [Json.withDefault, hlabels]
    rfl
  rw [readLine?, hmembers] at hread
  obtain ⟨fields, hfields, hread⟩ := Option.bind_eq_some_iff.1 hread
  obtain ⟨_, rfl⟩ := Json.fields?_object_eq_some_iff.1 hfields
  simp only [readMembers?, hmember, Option.bind_eq_bind, Option.bind_eq_some_iff,
    Option.pure_def, Option.some.injEq] at hread
  obtain ⟨id, _, name, _, image, _, state, _, _, rfl, rfl⟩ := hread
  rfl

theorem ne_empty_of_readLine? {line : String} {shown : ContainerSummary}
    (h : readLine? line = some shown) : line ≠ "" := by
  rintro rfl
  cases h

theorem readLine?_of_members {line id name image : String}
    (h : Json.parseMembers? columns line = some [("ID", .string id), ("Names", .string name),
      ("Image", .string image), ("Labels", .string column)]) :
    readLine? line = some ⟨id, name, image, "", readLabels column⟩ := by
  rw [readLine?, h]
  rfl

/-- A listing may consist of one line. -/
theorem readListing_line {line : String} {shown : ContainerSummary} (hfeed : '\n' ∉ line.toList)
    (htrim : Text.trim line = line) (hread : readLine? line = some shown) :
    readListing line = .ok [shown] := by
  have hne := ne_empty_of_readLine? hread
  have hkept : (!line.isEmpty) = true := by
    rw [Bool.not_eq_true', Bool.eq_false_iff]
    exact mt String.isEmpty_iff.1 hne
  rw [readListing, Text.lines_of_no_feed hfeed, if_neg hne, List.map_singleton, htrim,
    List.filter_singleton, hkept, cond_true, readLines, hread]
  rfl

theorem mem_of_readLines {lines : List String} {listed : List ContainerSummary}
    (h : readLines lines = .ok listed) :
    ∀ line ∈ lines, ∃ shown ∈ listed, readLine? line = some shown := by
  induction lines generalizing listed with
  | nil => exact fun line hline => absurd hline List.not_mem_nil
  | cons first rest ih =>
    rw [readLines] at h
    split at h
    · cases h
    · next shown hshown =>
      split at h
      · next others hothers =>
        cases h
        intro line hline
        rcases List.mem_cons.1 hline with rfl | hline
        · exact ⟨shown, List.mem_cons_self, hshown⟩
        · obtain ⟨other, hother, hread⟩ := ih hothers line hline
          exact ⟨other, List.mem_cons_of_mem _ hother, hread⟩
      · cases h

/-- A container whose line has a label column is listed. -/
theorem mem_of_readListing {output line : String} {listed : List ContainerSummary}
    (h : readListing output = .ok listed) (hline : line ∈ Text.lines output)
    (hcolumn : HasColumn (Text.trim line) column) :
    ∃ shown ∈ listed, readLine? (Text.trim line) = some shown := by
  refine mem_of_readLines h _ (List.mem_filter.2 ⟨List.mem_map_of_mem hline, ?_⟩)
  obtain ⟨ms, hmembers, _⟩ := hcolumn
  rw [Bool.not_eq_true', Bool.eq_false_iff, ne_eq, String.isEmpty_iff]
  intro hempty
  rw [hempty] at hmembers
  cases hmembers

/-! ## The containers of a pass -/

/-- A container belongs to the pass of a profile that its labels name. -/
theorem belongsTo_iff (hprofile : Nameable b.naming.profile) (hmodule : Nameable d.name)
    (hspec : spec ∈ b.specsOf d) (hcolumn : ShowsLabels spec.labels column) {n : Naming}
    {kind : ModuleKind} {shown : ContainerSummary} (hshown : shown.labels = readLabels column) :
    Deployment.belongsTo n kind shown = true ↔ b.naming.profile = n.profile ∧ d.kind = kind := by
  have hread : ∀ key, Reserved key → (readLabels column).find? key = spec.labels.find? key :=
    fun _ => find?_readLabels_spec hprofile hmodule hspec hcolumn
  obtain ⟨_, hown, hownKind⟩ := Blueprint.stem_and_labels hspec
  have htext : d.kind.text = kind.text ↔ d.kind = kind := by
    cases d.kind <;> cases kind <;> decide
  rw [Deployment.belongsTo, hshown, hread _ (by decide), hread _ (by decide), hown, hownKind,
    Bool.and_eq_true, beq_iff_eq, beq_iff_eq, Option.some.injEq, Option.some.injEq, htext]

variable {σ : Type} {machine : Handler MachineCall.Answer σ} {c : Client} {k : Collaborators σ}
  {s : RunState σ} {t : σ} {output errors : List UInt8} {listed : List ContainerSummary}
  {n : Naming} {kind : ModuleKind}

theorem run_listContainers {pattern : String}
    (hruntime : k.runtime = fun call => Program.run machine (c.serve call))
    (hps : Program.run machine
      (Client.execute ⟨c.program, listArguments pattern, none⟩ (some c.patience)) s.services =
        (.exited 0 output errors, t))
    (hread : readListing (Text.repair output) = .ok listed) :
    Program.run k.handler (Action.listContainers pattern).run s = (.ok listed, ⟨s.images, t⟩) := by
  have hcommand : Program.run machine (c.runCommand (listArguments pattern)).run s.services =
      (.ok (Text.repair output), t) :=
    (Program.run_bind_of_ok (a := .exited 0 output errors) (Program.run_bind_of hps)).trans rfl
  have hlist : Program.run machine (c.list pattern).run s.services = (.ok listed, t) := by
    rw [Client.list, Program.run_bind_of_ok hcommand, hread]
    rfl
  have hserved : k.runtime (.list pattern) s.services = (.ok listed, t) := by
    rw [hruntime]
    exact hlist
  show ((k.runtime (.list pattern) s.services).1,
    (⟨s.images, (k.runtime (.list pattern) s.services).2⟩ : RunState σ)) = _
  rw [hserved]

/-- The labels of a container survive docker: of a column that shows them, each is read under its
key, and nothing else under a reserved key. So whatever docker lists, the passes select a container
by the profile and the kind that it was created for. -/
theorem labels_survive (machine : Handler MachineCall.Answer σ) (c : Client) (k : Collaborators σ)
    (hruntime : k.runtime = fun call => Program.run machine (c.serve call))
    (b : Blueprint) (d : Descriptor) (hprofile : Nameable b.naming.profile)
    (hmodule : Nameable d.name) (spec : ContainerSpec) (hspec : spec ∈ b.specsOf d)
    (column : String) (hcolumn : ShowsLabels spec.labels column) :
    Survive spec.labels (readLabels column) ∧
    ∀ (n : Naming) (kind : ModuleKind) (s : RunState σ) (t : σ) (output errors : List UInt8)
      (listed : List ContainerSummary),
      Program.run machine
        (Client.execute ⟨c.program, listArguments n.stem, none⟩ (some c.patience)) s.services =
          (.exited 0 output errors, t) →
      readListing (Text.repair output) = .ok listed →
      ∃ selected, selected.Sublist listed ∧
        Program.run k.handler (Deployment.containers n kind).run s =
          (.ok selected, ⟨s.images, t⟩) ∧
        Program.run k.handler (Deployment.undeploy n kind).run s =
          Program.run k.handler (Deployment.removeAll selected).run ⟨s.images, t⟩ ∧
        ∀ line ∈ Text.lines (Text.repair output), HasColumn (Text.trim line) column →
          ∃ shown ∈ listed, readLine? (Text.trim line) = some shown ∧
            (shown ∈ selected ↔ b.naming.profile = n.profile ∧ d.kind = kind) := by
  refine ⟨survive_readLabels hprofile hmodule hspec hcolumn, ?_⟩
  intro n kind s t output errors listed hps hread
  have hlisted := run_listContainers hruntime hps hread
  have hselected : Program.run k.handler (Deployment.containers n kind).run s =
      (.ok (listed.filter (Deployment.belongsTo n kind)), ⟨s.images, t⟩) :=
    Program.run_bind_of_ok hlisted
  refine ⟨_, List.filter_sublist, hselected, Program.run_bind_of_ok hselected, ?_⟩
  intro line hline hhas
  obtain ⟨shown, hmem, hshown⟩ := mem_of_readListing hread hline hhas
  refine ⟨shown, hmem, hshown, ?_⟩
  rw [List.mem_filter, and_iff_right hmem]
  exact belongsTo_iff hprofile hmodule hspec hcolumn (labels_of_readLine? hhas hshown)

/-- A module of the business pass. -/
def plainModule : Descriptor where
  id := ⟨"m", "1"⟩
  flags := default
  memoryMb := 768
  cpus := none
  port := 30000
  privatePort := none
  image := ""
  localImage := false
  localPath := none
  environment := .empty
  sidecarEnvironment := .empty

/-- The labels of its container, in docker's order, behind one that it inherited. -/
def mixedColumn : String :=
  "t=x, y=z,flotilla.sidecar=false,flotilla.profile=p,flotilla.module=m,flotilla.kind=business"

/-- The characters of the line that shows its container. -/
def mixedChars : List Char :=
  "\x7b\"ID\":\"\",\"Names\":\"p-m\",".toList ++ "\"Image\":\"\",\"Labels\":\"".toList ++
    mixedColumn.toList ++ "\"\x7d".toList

theorem eq_of_texts {ms : List (String × Json)} {texts : List (String × String)}
    (h : ms.map (fun m => (m.1, Json.text? m.2)) = texts.map fun t => (t.1, some t.2)) :
    ms = texts.map fun t => (t.1, .string t.2) := by
  induction ms generalizing texts with
  | nil => rw [List.map_eq_nil_iff.1 h.symm, List.map_nil]
  | cons m ms ih =>
    obtain ⟨t, texts, rfl, ht, hrest⟩ := List.map_eq_cons_iff.1 h.symm
    obtain ⟨hname, htext⟩ := Prod.mk.inj ht
    have hstring : m.2 = .string t.2 := by
      cases hm : m.2 <;> rw [hm] at htext <;> cases htext
      rfl
    rw [List.map_cons, ← ih hrest.symm, ← hstring, hname]

theorem parseMembers?_mixed : Json.parseMembers? columns (String.ofList mixedChars) =
    some [("ID", .string ""), ("Names", .string "p-m"), ("Image", .string ""),
      ("Labels", .string mixedColumn)] := by
  have htexts : (Json.parseMembers? columns (String.ofList mixedChars)).map
      (List.map fun m => (m.1, Json.text? m.2)) = some
        [("ID", some ""), ("Names", some "p-m"), ("Image", some ""), ("Labels", some mixedColumn)] := by
    rw [Json.parseMembers?, String.toList_ofList]
    decide +kernel
  obtain ⟨ms, hms, heq⟩ := Option.map_eq_some_iff.1 htexts
  have hmembers := @eq_of_texts ms
    [("ID", ""), ("Names", "p-m"), ("Image", ""), ("Labels", mixedColumn)] heq
  exact hms.trans (congrArg some hmembers)

/-- A container is found again behind a label that it inherited. -/
theorem labels_survive_mixed :
    let line := String.ofList mixedChars
    let blueprint := Blueprint.ofConfig { profile := { name := "p" } } none
    let s : RunState Site :=
      .fresh { machine := { commands := [.exit 0 (Text.bytes line) []] } }
    let shown : ContainerSummary := ⟨"", "p-m", "", "", readLabels mixedColumn⟩
    ShowsLabels (blueprint.moduleSpec plainModule).labels mixedColumn ∧
    Survive (blueprint.moduleSpec plainModule).labels (readLabels mixedColumn) ∧
    readListing line = .ok [shown] ∧
    (Program.run (Site.live {}).handler
      (Deployment.containers blueprint.naming .business).run s).1 = .ok [shown] := by
  intro line blueprint s shown
  have hcolumn : ShowsLabels (blueprint.moduleSpec plainModule).labels mixedColumn := by
    refine ⟨[("t", "x, y=z"), ("flotilla.sidecar", "false"), ("flotilla.profile", "p"),
      ("flotilla.module", "m"), ("flotilla.kind", "business")], [("t", "x, y=z")],
      by decide +kernel, by decide +kernel, ?_⟩
    intro label hlabel
    obtain rfl := List.mem_singleton.1 hlabel
    have hforeign : ∀ fragment ∈ ["t=x", " y=z"],
        ',' ∉ fragment.toList ∧ ∀ e ∈ labelOf? fragment, ¬ Reserved e.1 := by decide +kernel
    refine ⟨["t=x", " y=z"], by decide +kernel, fun fragment hfragment => ?_⟩
    obtain ⟨hcomma, hnone⟩ := hforeign fragment hfragment
    exact ⟨hcomma, foreign_iff.2 hnone⟩
  have hfeed : '\n' ∉ line.toList := by
    rw [String.toList_ofList]
    decide +kernel
  have hends : Text.trimChars mixedChars = mixedChars := by decide +kernel
  have htrim : Text.trim line = line := by rw [Text.trim, String.toList_ofList, hends]
  have hread : readLine? line = some shown := readLine?_of_members parseMembers?_mixed
  have hlisted : readListing line = .ok [shown] := readListing_line hfeed htrim hread
  have hnul : ("docker" :: listArguments blueprint.naming.stem).any
      (fun a => a.toList.contains '\x00') = false := by decide +kernel
  have hps : Client.execute ⟨"docker", listArguments blueprint.naming.stem, none⟩
      (some (Client.ofConfig {}).patience) = Program.perform (MachineCall.execute _ _) :=
    if_neg (Bool.eq_false_iff.1 hnul)
  have hprofile : Nameable "p" := by decide
  have hmodule : Nameable "m" := by decide
  obtain ⟨hsurvive, hselect⟩ := labels_survive _ (Client.ofConfig {}) (Site.live {})
    (funext fun call => Site.onMachine_eq_run _) blueprint plainModule hprofile hmodule _
    List.mem_cons_self mixedColumn hcolumn
  obtain ⟨selected, hsublist, hrun, _, hlines⟩ := hselect blueprint.naming .business s _
    (Text.bytes line) [] [shown] ((congrArg (Program.run _ · _) hps).trans rfl)
    ((congrArg readListing (Text.repair_bytes _)).trans hlisted)
  have hline : line ∈ Text.lines (Text.repair (Text.bytes line)) := by
    rw [Text.repair_bytes, Text.lines_of_no_feed hfeed, if_neg (ne_empty_of_readLine? hread)]
    exact List.mem_singleton_self _
  have hhas : HasColumn (Text.trim line) mixedColumn := by
    rw [htrim]
    exact ⟨_, parseMembers?_mixed, rfl⟩
  obtain ⟨_, hmem, _, hiff⟩ := hlines line hline hhas
  obtain rfl := List.mem_singleton.1 hmem
  have hselected : selected = [shown] :=
    hsublist.eq_of_length_le (List.length_pos_of_mem (hiff.2 ⟨rfl, rfl⟩))
  refine ⟨hcolumn, hsurvive, hlisted, ?_⟩
  rw [hrun, hselected]

end Docker

end Fleet
