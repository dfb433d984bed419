import Fleet.Proofs.Service.UserService

/-!
# The directory as a service that keeps users

A `UserDirectory` does what is assumed of a service, as long as what befalls its requests passes for
a failure (`UserDirectory.serves`). The ids that it gives out are numbered, so they are new
(`idOf_injective`), and they consist of plain characters, so they are read back from a reply
(`decode_created`). That its roles can be read back is left as an assumption.
-/

namespace Fleet

/-! ## Plain texts in JSON -/

namespace Json

/-- A character that stands for itself inside a string. -/
def Plain (c : Char) : Prop := c ≠ '"' ∧ c ≠ '\\' ∧ ¬c.toNat < 0x20

theorem flatMap_escapeChar_of_plain {cs : List Char} (h : ∀ c ∈ cs, Plain c) :
    cs.flatMap escapeChar = cs := by
  induction cs with
  | nil => rfl
  | cons c cs ih =>
    obtain ⟨hquote, hslash, hvisible⟩ := h c List.mem_cons_self
    have hself : escapeChar c = [c] := by
      unfold escapeChar
      split <;> simp_all
    rw [List.flatMap_cons, hself, ih fun c hc => h c (List.mem_cons_of_mem _ hc)]
    rfl

/-- Plain characters are read up to the next quote. -/
theorem readString_of_plain : ∀ {cs : List Char} (read rest : List Char), (∀ c ∈ cs, Plain c) →
    readString read (cs ++ '"' :: rest) = some (read.reverse ++ cs, rest)
  | [], read, rest, _ => by simp [readString]
  | c :: cs, read, rest, h => by
    obtain ⟨hquote, hslash, hvisible⟩ := h c List.mem_cons_self
    have hrest := readString_of_plain (c :: read) rest fun c hc => h c (List.mem_cons_of_mem _ hc)
    rw [List.cons_append, readString]
    · simp [hslash, hvisible, hrest]
    · exact hquote
    -- no escape begins here
    all_goals
      intros
      contradiction

/-- An object with a plain id is read back. -/
theorem parse?_id {id : String} (h : ∀ c ∈ id.toList, Plain c) :
    parse? (Json.object [("id", .string id)]).render = some (.object [("id", .string id)]) := by
  have htext : (Json.object [("id", .string id)]).render.toList =
      "\x7b\"id\":\"".toList ++ (id.toList ++ ['"', '\x7d']) := by
    simp [render, renderMembers, quote, flatMap_escapeChar_of_plain h, escapeChar]
  have hbudget : budgetFor ("\x7b\"id\":\"".toList ++ (id.toList ++ ['"', '\x7d'])) =
      2 * id.toList.length + 17 + 3 := by
    simp [budgetFor]
    omega
  unfold parse?
  simp only [htext]
  rw [hbudget]
  have hid := readString_of_plain [] ['\x7d'] h
  simp [readValue, readMembers, skipSpace, isSpace, depthLimit, readString, hid]

theorem list?_ofTexts (texts : List String) : list? text? (ofTexts texts) = some texts := by
  show (texts.map Json.string).mapM text? = some texts
  induction texts with
  | nil => rfl
  | cons text rest ih => simp [ih, text?]

end Json

namespace Table

theorem length_place {κ α : Type} [Ord κ] {k : κ} {v : α} :
    ∀ {l : List (κ × α)}, lookup k l = none → (place k v l).length = l.length + 1
  | [], _ => rfl
  | (k', v') :: rest, h => by
    unfold place
    split
    · rfl
    · next heq => simp [lookup, heq] at h
    · next hgt =>
      have hrest : lookup k rest = none := by simpa [lookup, hgt] using h
      rw [List.length_cons, length_place hrest, List.length_cons]

end Table

namespace UserDirectory

open Http.Client (decode)
open UserService IdentityService

variable {d : UserDirectory} {name : String}

/-! ## Ids -/

theorem toList_idOf (n : Nat) : (idOf n).toList = "user-".toList ++ Nat.toDigits 10 n := by
  unfold idOf
  rw [String.toList_append, Nat.toString_eq_repr, Nat.toList_repr]

/-- The number can be read off an id. -/
theorem idOf_injective : Function.Injective idOf := by
  intro m n h
  have hdigits := congrArg String.toList h
  rw [toList_idOf, toList_idOf] at hdigits
  have hread := congrArg (Nat.ofDigitChars 10 · 0) (List.append_cancel_left hdigits)
  rwa [Nat.ofDigitChars_ten_toDigits, Nat.ofDigitChars_ten_toDigits] at hread

theorem plain_of_mem_idOf {n : Nat} {c : Char} (h : c ∈ (idOf n).toList) : Json.Plain c := by
  have hstem : ∀ c ∈ "user-".toList, Json.Plain c := by simp [Json.Plain]
  rw [toList_idOf] at h
  rcases List.mem_append.1 h with h | h
  · exact hstem c h
  · have hdigit := Nat.isDigit_of_mem_toDigits (by decide) (by decide) h
    refine ⟨?_, ?_, fun hcontrol => ?_⟩
    · rintro rfl
      cases hdigit
    · rintro rfl
      cases hdigit
    · have hlow : 48 ≤ c.toNat := (Char.isDigit_iff_toNat.1 hdigit).1
      omega

theorem decode_created (n status : Nat) : decode readCreated?
    ⟨status, (Json.object [("id", .string (idOf n))]).render⟩ = .ok (idOf n) := by
  unfold decode
  rw [Json.parse?_id fun _ => plain_of_mem_idOf]
  rfl

/-! ## Sound directories -/

/-- The roles can be read back, the ids are numbered, and what befalls a request passes for a
failure. -/
structure Sound (d : UserDirectory) : Prop where
  listed : decode (readNamedList? "roles") d.listRoles = .ok d.roleIds
  numbered : ∀ id ∈ d.users.values, ∃ n ≤ d.users.size, id = idOf n
  failing : ∀ code, some (.status code) ∈ d.mishaps →
    Http.Reply.isSuccess ⟨code, ""⟩ = false ∧ code ≠ 409

theorem Sound.tail (h : d.Sound) : Sound { d with mishaps := d.mishaps.tail } :=
  ⟨h.listed, h.numbered, fun code hcode => h.failing code (List.mem_of_mem_tail hcode)⟩

/-- The next id is new. -/
theorem Sound.next_new (h : d.Sound) : idOf (d.users.size + 1) ∉ d.users.values := by
  intro hmem
  obtain ⟨n, hn, heq⟩ := h.numbered _ hmem
  have := idOf_injective heq
  omega

theorem Sound.enroll (h : d.Sound) (hnew : d.users.contains name = false) :
    (d.enroll name (idOf (d.users.size + 1))).Sound := by
  have hsize : (d.users.insert name (idOf (d.users.size + 1))).size = d.users.size + 1 :=
    Table.length_place (find?_eq_none hnew)
  refine ⟨h.listed, fun id hid => ?_, h.failing⟩
  show ∃ n ≤ (d.users.insert name (idOf (d.users.size + 1))).size, id = idOf n
  rw [hsize]
  obtain ⟨⟨name', id'⟩, hentry, rfl⟩ := List.mem_map.1 hid
  rcases Table.mem_entries_of_mem_insert hentry with heq | hentry
  · cases heq
    exact ⟨_, Nat.le_refl _, rfl⟩
  · obtain ⟨n, hn, heq⟩ := h.numbered id' (List.mem_map_of_mem hentry)
    exact ⟨n, Nat.le_succ_of_le hn, heq⟩

/-! ## What the directory answers -/

theorem exists_eq_of_message? {s : IdentityService} {method : Http.Method} {token : Token}
    {tenant path : String} {body : Http.Body} {m : Http.Message}
    (hm : (s.request method token tenant path body).message? = some m) :
    ∃ url headers, Url.parse? (s.gateway ++ path) = some url ∧
      m = ⟨method, url, headers, body⟩ := by
  unfold Http.Request.message? at hm
  split at hm
  · obtain ⟨url, hurl, rfl⟩ := Option.map_eq_some_iff.1 hm
    exact ⟨url, _, hurl, rfl⟩
  · cases hm

/-- The paths of the requests for users. -/
def paths : List String :=
  ["/roles?limit=10000", "/users-keycloak/users", "/authn/credentials", "/roles/users"]

/-- The client's gateway leads to the paths of the requests. -/
def Reached (s : IdentityService) : Prop :=
  ∀ path ∈ paths, (Url.parse? (s.gateway ++ path)).map Url.target = some path

/-- The directory as a service. -/
def service : UserService UserDirectory where
  handler := handler
  records d := { d with mishaps := [] }
  Reachable := Sound
  idle _ _ h := ⟨h, rfl⟩

section Answers

variable {s : IdentityService} (hreached : Reached s) {method : Http.Method} {token : Token}
  {tenant path : String} {body : Http.Body} {w : Wish}
  {Done : UserDirectory → Http.Reply → UserDirectory → Prop} {Refused : Http.Reply → Prop}

include hreached

/-- A request is answered as its wish is served, or it fails. -/
theorem answers_of_wish (hpath : path ∈ paths)
    (hwish : ∀ url headers, url.target = path → wish? ⟨method, url, headers, body⟩ = some w)
    (hserve : ∀ m d, wish? m = some w → d.Sound → (d.serve m).2.Sound ∧
      Done (service.records d) (d.serve m).1 (service.records (d.serve m).2))
    (hrefused : ∀ code, Http.Reply.isSuccess ⟨code, ""⟩ = false → code ≠ 409 →
      Refused ⟨code, ""⟩) :
    service.Answers (s.request method token tenant path body) Done Refused := by
  intro m patience d hm hd
  obtain ⟨url, headers, hurl, rfl⟩ := exists_eq_of_message? hm
  have htarget : url.target = path := by
    have htarget := hreached path hpath
    rw [hurl] at htarget
    exact Option.some.inj htarget
  change (d.exchange _).2.Sound ∧ AllOrNothing _ (service.records d) (d.exchange _).1
    (service.records (d.exchange _).2)
  unfold exchange
  split
  · next code later hmishaps =>
    obtain ⟨hfails, hstatus⟩ := hd.failing code (hmishaps ▸ List.mem_cons_self)
    exact ⟨hd.tail, .inr ⟨hrefused code hfails hstatus, rfl⟩⟩
  · exact ⟨hd.tail, rfl⟩
  · obtain ⟨hsound, hdone⟩ := hserve _ _ (hwish url headers htarget) hd.tail
    exact ⟨hsound, .inl hdone⟩

/-- A directory does what is assumed of a service, whichever users are described. -/
theorem serves (tenant : String) (named : Users) : service.Serves s tenant named where
  roles token := by
    refine answers_of_wish hreached (w := .roles) ?_ (fun url _ htarget => ?_)
      (fun m d hm hd => ?_) fun _ hfails _ => hfails
    · decide
    · have hlisting : "/roles" ++ s!"?limit={listLimit}" = "/roles?limit=10000" := by decide
      simp [wish?, htarget.trans hlisting]
    · have hserve : d.serve m = (d.listRoles, d) := by
        rw [serve, hm]
      rw [hserve]
      exact ⟨hd, rfl, hd.listed, rfl⟩
  user token name _ := by
    refine answers_of_wish hreached (w := .user name) ?_ (fun url _ htarget => ?_)
      (fun m d hm hd => ?_) fun _ hfails hstatus => ⟨hfails, hstatus⟩
    · decide
    · simp [wish?, htarget, userBody, Json.object?, Json.required, Json.lastMember, Json.text?]
    · have hserve : d.serve m = d.create name := by
        rw [serve, hm]
      rw [hserve, create]
      cases hthere : d.users.contains name with
      | true => exact ⟨hd, .inl ⟨hthere, rfl, rfl⟩⟩
      | false =>
        exact ⟨hd.enroll hthere, .inr ⟨hthere, _, hd.next_new, rfl, decode_created _ _, rfl⟩⟩
  password token name id password := by
    refine answers_of_wish hreached (w := .password id password) ?_ (fun url _ htarget => ?_)
      (fun m d hm hd => ?_) fun _ hfails _ => hfails
    · decide
    · simp [wish?, htarget, credentialsBody, Json.object?, Json.required, Json.lastMember,
        Json.text?]
      decide
    · have hserve : d.serve m = d.setPassword id password := by
        rw [serve, hm]
      rw [hserve]
      exact ⟨⟨hd.listed, hd.numbered, hd.failing⟩, rfl, rfl⟩
  assignment token id roleIds := by
    refine answers_of_wish hreached (w := .assignment id roleIds) ?_ (fun url _ htarget => ?_)
      (fun m d hm hd => ?_) fun _ hfails _ => hfails
    · decide
    · simp [wish?, htarget, assignmentBody, Json.object?, Json.required, Json.lastMember,
        Json.text?, Json.list?_ofTexts]
      decide
    · have hserve : d.serve m = d.assign id roleIds := by
        rw [serve, hm]
      rw [hserve]
      exact ⟨⟨hd.listed, hd.numbered, hd.failing⟩, rfl, rfl⟩

end Answers

end UserDirectory

end Fleet
