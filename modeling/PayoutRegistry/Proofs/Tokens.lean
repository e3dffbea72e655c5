import PayoutRegistry.Operation.SignIn
import PayoutRegistry.Proofs.Base64Url
import PayoutRegistry.Proofs.JsonText
import PayoutRegistry.Proofs.Identifiers

/-!
The anatomy of tokens: which text is signed, what the header and the payload hold, and when the check of a
signature succeeds. A token that cannot be taken apart is refused in one way.
-/
namespace PayoutRegistry.Token

variable {token header payload signature before after secret key algorithm : String}
  {hash : Digest.Hash} {p : Parts} {settings : Settings} {now : Instant} {claims : Json.Fields}
  {a b : Bytes}

/-! ### Points -/

theorem encode_point : Utf8.encode "." = [point] := by
  decide

theorem bne_point_of_not_mem (h : '.' ∉ before.toList) :
    ∀ byte ∈ Utf8.encode before, (byte != point) = true := by
  intro byte hbyte
  obtain ⟨c, hc, hmem⟩ := List.mem_flatMap.mp hbyte
  rw [bne_iff_ne]
  rintro rfl
  exact h (Utf8.eq_of_mem_encodeChar (c := '.') (by decide) hmem ▸ hc)

theorem splitFirst?_append (ha : ∀ byte ∈ a, (byte != point) = true) :
    splitFirst? (a ++ point :: b) = some (a, b) := by
  rw [splitFirst?, List.span_eq_takeWhile_dropWhile, List.takeWhile_append_of_pos ha,
    List.dropWhile_append_of_pos ha, List.takeWhile_cons_of_neg (by simp),
    List.dropWhile_cons_of_neg (by simp), List.append_nil]

theorem splitLast?_append (hb : ∀ byte ∈ b, (byte != point) = true) :
    splitLast? (a ++ point :: b) = some (a, b) := by
  have hrev : ∀ byte ∈ b.reverse, (byte != point) = true :=
    fun byte hbyte => hb byte (List.mem_reverse.mp hbyte)
  rw [splitLast?, List.reverse_append, List.reverse_cons, List.append_assoc, List.singleton_append,
    List.span_eq_takeWhile_dropWhile, List.takeWhile_append_of_pos hrev,
    List.dropWhile_append_of_pos hrev, List.takeWhile_cons_of_neg (by simp),
    List.dropWhile_cons_of_neg (by simp), List.append_nil]
  simp

theorem span_all {p : UInt8 → Bool} (h : ∀ byte ∈ a, p byte = true) : a.span p = (a, []) := by
  rw [List.span_eq_takeWhile_dropWhile, List.takeWhile_eq_self_iff.mpr h, List.dropWhile_eq_nil_iff.mpr h]

theorem splitFirst?_eq_none (ha : ∀ byte ∈ a, (byte != point) = true) : splitFirst? a = none := by
  rw [splitFirst?, span_all ha]

theorem splitLast?_eq_none (ha : ∀ byte ∈ a, (byte != point) = true) : splitLast? a = none := by
  rw [splitLast?, span_all fun byte hbyte => ha byte (List.mem_reverse.mp hbyte)]

theorem encode_joined (before after : String) : Utf8.encode (before ++ "." ++ after) =
    Utf8.encode before ++ point :: Utf8.encode after := by
  rw [Utf8.encode_append, Utf8.encode_append, encode_point, List.append_assoc, List.singleton_append]

theorem exists_first_point (h : '.' ∈ token.toList) :
    ∃ before after, token = before ++ "." ++ after ∧ '.' ∉ before.toList := by
  obtain ⟨cs, ds, hsplit, hno⟩ := List.eq_append_cons_of_mem h
  refine ⟨String.ofList cs, String.ofList ds, String.toList_inj.mp ?_, ?_⟩
  · simp [hsplit]
  · rwa [String.toList_ofList]

theorem exists_last_point (h : '.' ∈ token.toList) :
    ∃ before after, token = before ++ "." ++ after ∧ '.' ∉ after.toList := by
  obtain ⟨cs, ds, hsplit, hno⟩ := List.eq_append_cons_of_mem (List.mem_reverse.mpr h)
  refine ⟨String.ofList ds.reverse, String.ofList cs.reverse, String.toList_inj.mp ?_, ?_⟩
  · rw [← List.reverse_reverse token.toList, hsplit]
    simp
  · rwa [String.toList_ofList, List.mem_reverse]

/-- A text is cut at its first point. -/
theorem splitFirst?_encode : splitFirst? (Utf8.encode token) = some (a, b) ↔
    ∃ before after, token = before ++ "." ++ after ∧ '.' ∉ before.toList ∧
      a = Utf8.encode before ∧ b = Utf8.encode after := by
  have hcut (before after : String) (hno : '.' ∉ before.toList) :
      splitFirst? (Utf8.encode (before ++ "." ++ after)) =
        some (Utf8.encode before, Utf8.encode after) := by
    rw [encode_joined]
    exact splitFirst?_append (bne_point_of_not_mem hno)
  constructor
  · intro h
    by_cases hmem : '.' ∈ token.toList
    · obtain ⟨before, after, rfl, hno⟩ := exists_first_point hmem
      rw [hcut before after hno] at h
      cases h
      exact ⟨before, after, rfl, hno, rfl, rfl⟩
    · rw [splitFirst?_eq_none (bne_point_of_not_mem hmem)] at h
      cases h
  · rintro ⟨before, after, rfl, hno, rfl, rfl⟩
    exact hcut before after hno

/-- A text is cut at its last point. -/
theorem splitLast?_encode : splitLast? (Utf8.encode token) = some (a, b) ↔
    ∃ before after, token = before ++ "." ++ after ∧ '.' ∉ after.toList ∧
      a = Utf8.encode before ∧ b = Utf8.encode after := by
  have hcut (before after : String) (hno : '.' ∉ after.toList) :
      splitLast? (Utf8.encode (before ++ "." ++ after)) =
        some (Utf8.encode before, Utf8.encode after) := by
    rw [encode_joined]
    exact splitLast?_append (bne_point_of_not_mem hno)
  constructor
  · intro h
    by_cases hmem : '.' ∈ token.toList
    · obtain ⟨before, after, rfl, hno⟩ := exists_last_point hmem
      rw [hcut before after hno] at h
      cases h
      exact ⟨before, after, rfl, hno, rfl, rfl⟩
    · rw [splitLast?_eq_none (bne_point_of_not_mem hmem)] at h
      cases h
  · rintro ⟨before, after, rfl, hno, rfl, rfl⟩
    exact hcut before after hno

/-! ### Parts -/

/-- The object that a part of a token holds. -/
def Holds (part : String) (fields : Json.Fields) : Prop :=
  ∃ bytes text, Base64Url.decode? (Utf8.encode part) = some bytes ∧ Utf8.decode? bytes = some text ∧
    Json.read text = .ok (.object fields)

/-- The three parts of a token, cut at the first point and at the last. -/
structure Cuts (token header payload signature : String) : Prop where
  whole : token = header ++ "." ++ payload ++ "." ++ signature
  first : '.' ∉ header.toList
  last : '.' ∉ signature.toList

/-- A token ends in the keyed digest of the text before its last point. -/
def Signed (hash : Digest.Hash) (key token : String) : Prop :=
  ∃ text signature, token = text ++ "." ++ signature ∧ '.' ∉ signature.toList ∧
    Base64Url.decode? (Utf8.encode signature) =
      some (Digest.mac hash (Utf8.encode key) (Utf8.encode text))

/-- There is one way to cut a token at its last point. -/
theorem signed_append {text : String} (hlast : '.' ∉ signature.toList) :
    Signed hash key (text ++ "." ++ signature) ↔ Base64Url.decode? (Utf8.encode signature) =
      some (Digest.mac hash (Utf8.encode key) (Utf8.encode text)) := by
  constructor
  · rintro ⟨text', signature', htoken, hno, hdecode⟩
    have hcut := splitLast?_encode.mpr ⟨text, signature, rfl, hlast, rfl, rfl⟩
    have hcut' := splitLast?_encode.mpr ⟨text', signature', htoken, hno, rfl, rfl⟩
    obtain ⟨htext, hsig⟩ := Prod.mk.inj (Option.some.inj (hcut.symm.trans hcut'))
    rw [hsig, hdecode, htext]
  · intro hdecode
    exact ⟨text, signature, rfl, hlast, hdecode⟩

theorem readObject_eq_ok {part : String} {bytes : Bytes} {fields : Json.Fields} :
    readObject part bytes = .ok fields ↔
      ∃ text, Utf8.decode? bytes = some text ∧ Json.read text = .ok (.object fields) := by
  constructor
  · intro h
    simp only [readObject] at h
    split at h
    · rename_i hread
      cases h
      obtain ⟨text, hdecode, hread⟩ := Option.map_eq_some_iff.mp hread
      exact ⟨text, hdecode, hread⟩
    · cases h
    · cases h
  · rintro ⟨text, hdecode, hread⟩
    simp only [readObject, hdecode, Option.map_some, hread]

theorem readObject_error {part : String} {bytes : Bytes} {f : Failure}
    (h : readObject part bytes = .error f) : ∃ m, f = .token (.invalid m) := by
  simp only [readObject] at h
  split at h <;> cases h <;> exact ⟨_, rfl⟩

theorem headerBytes?_eq_some {bytes x s t : Bytes} :
    headerBytes? (Utf8.encode token) = some (bytes, x, s, t) ↔
      ∃ header payload signature, Cuts token header payload signature ∧
        Base64Url.decode? (Utf8.encode header) = some bytes ∧ x = Utf8.encode payload ∧
        s = Utf8.encode (header ++ "." ++ payload) ∧ t = Utf8.encode signature := by
  simp only [headerBytes?, Option.bind_eq_bind, Option.bind_eq_some_iff, Prod.exists, Option.pure_def,
    Option.some.injEq, Prod.mk.injEq]
  constructor
  · rintro ⟨signed, sig, hlast, head, load, hfirst, decoded, hdecode, rfl, rfl, rfl, rfl⟩
    obtain ⟨text, signature, htoken, hsig, rfl, rfl⟩ := splitLast?_encode.mp hlast
    obtain ⟨header, payload, rfl, hhead, rfl, rfl⟩ := splitFirst?_encode.mp hfirst
    exact ⟨header, payload, signature, ⟨htoken, hhead, hsig⟩, hdecode, rfl, rfl, rfl⟩
  · rintro ⟨header, payload, signature, hcuts, hdecode, rfl, rfl, rfl⟩
    exact ⟨_, _, splitLast?_encode.mpr ⟨_, _, hcuts.whole, hcuts.last, rfl, rfl⟩, _, _,
      splitFirst?_encode.mpr ⟨_, _, rfl, hcuts.first, rfl, rfl⟩, _, hdecode, rfl, rfl, rfl, rfl⟩

theorem parts_eq_ok : parts token = .ok p ↔ ∃ header payload signature,
    Cuts token header payload signature ∧ Holds header p.header ∧
    Base64Url.decode? (Utf8.encode payload) = some p.payload ∧
    Base64Url.decode? (Utf8.encode signature) = some p.signature ∧
    p.signed = Utf8.encode (header ++ "." ++ payload) := by
  constructor
  · intro h
    simp only [parts] at h
    split at h
    · cases h
    · rename_i bytes x s t hbytes
      obtain ⟨header, payload, signature, hcuts, hdecode, rfl, rfl, rfl⟩ := headerBytes?_eq_some.mp hbytes
      cases hhead : readObject "header" bytes with
      | error f =>
        rw [hhead] at h
        cases h
      | ok fields =>
        simp only [hhead, bind, Except.bind] at h
        split at h
        · rename_i load hload
          split at h
          · rename_i sig hsig
            cases h
            obtain ⟨text, htext, hread⟩ := readObject_eq_ok.mp hhead
            exact ⟨header, payload, signature, hcuts, ⟨bytes, text, hdecode, htext, hread⟩, hload, hsig, rfl⟩
          · cases h
        · cases h
  · rintro ⟨header, payload, signature, hcuts, ⟨bytes, text, hbytes, htext, hread⟩, hpayload, hsig, hsigned⟩
    have hparts := headerBytes?_eq_some.mpr ⟨header, payload, signature, hcuts, hbytes, rfl, rfl, rfl⟩
    have hhead : readObject "header" bytes = .ok p.header := readObject_eq_ok.mpr ⟨text, htext, hread⟩
    simp [parts, hparts, hhead, hpayload, hsig, bind, Except.bind, pure, Except.pure, ← hsigned]

/-- Whatever keeps a token from being taken apart is a fault of the token. -/
theorem parts_error {f : Failure} (h : parts token = .error f) : ∃ m, f = .token (.invalid m) := by
  simp only [parts] at h
  split at h
  · cases h
    exact ⟨_, rfl⟩
  · rename_i bytes _ _ _ _
    cases hhead : readObject "header" bytes with
    | error f =>
      rw [hhead] at h
      cases h
      exact readObject_error hhead
    | ok fields =>
      simp only [hhead, bind, Except.bind] at h
      split at h
      · split at h
        · cases h
        · cases h
          exact ⟨_, rfl⟩
      · cases h
        exact ⟨_, rfl⟩

/-! ### Keys -/

/-- How the check of signatures reads a secret: as one key, which can be used. -/
structure ReadAs (secret key : String) : Prop where
  alone : candidates secret = [some key]
  usable : looksForeign key = false

/-- A secret that is not JSON stands for itself. -/
theorem readAs_self {f : Json.ReadError} (hjson : Json.read secret = .error f)
    (h : looksForeign secret = false) : ReadAs secret secret :=
  ⟨by rw [candidates, hjson], h⟩

theorem afterWord?_eq_none {d : Char} {word cs : List Char} (hword : d ∈ word) (hcs : d ∉ cs) :
    Json.afterWord? word cs = none := by
  induction word generalizing cs with
  | nil => cases hword
  | cons w word ih =>
    cases cs with
    | nil => rfl
    | cons c cs =>
      simp only [Json.afterWord?]
      split_ifs with heq
      · obtain rfl : w = c := by simpa using heq
        rcases List.mem_cons.mp hword with rfl | hmem
        · exact absurd (List.mem_cons_self ..) hcs
        · exact ih hmem fun h => hcs (List.mem_cons_of_mem _ h)
      · rfl

theorem not_mem_ends {d : Char} {cs tail : List Char} (h : tail ∈ ends cs) (hcs : d ∉ cs) : d ∉ tail := by
  induction cs with
  | nil =>
    rw [ends, List.mem_singleton] at h
    rwa [h]
  | cons c cs ih =>
    rcases List.mem_cons.mp h with rfl | h
    · exact hcs
    · exact ih h fun hd => hcs (List.mem_cons_of_mem _ hd)

theorem startsArmoured_eq_false {cs : List Char} (h : '-' ∉ cs) : startsArmoured cs = false := by
  have hrule : ∀ left ∈ rules, '-' ∈ left.toList := by decide
  have hnone (armour : String) : afterRule? "BEGIN" armour cs = none := by
    simp only [afterRule?, List.findSome?_eq_none_iff]
    intro left hleft right _
    refine afterWord?_eq_none ?_ h
    simp only [String.toList_append, List.mem_append]
    exact Or.inl (Or.inl (Or.inl (Or.inl (hrule left hleft))))
  simp [startsArmoured, hnone]

/-- Keys of other kinds are known by their hyphens. -/
theorem looksForeign_eq_false {secret : String} (h : '-' ∉ secret.toList) : looksForeign secret = false := by
  have harmoured : (ends secret.toList).any startsArmoured = false := by
    rw [List.any_eq_false]
    intro tail htail
    simp [startsArmoured_eq_false (not_mem_ends htail h)]
  have hkinds : ∀ w ∈ wordedKinds, '-' ∈ w.toList := by decide
  have hworded : (ends secret.toList).any
      (fun cs => wordedKinds.any fun w => w.toList.isPrefixOf cs) = false := by
    rw [Bool.eq_false_iff]
    intro hany
    obtain ⟨tail, htail, hany⟩ := List.any_eq_true.mp hany
    obtain ⟨w, hw, hprefix⟩ := List.any_eq_true.mp hany
    exact not_mem_ends htail h ((List.isPrefixOf_iff_prefix.mp hprefix).subset (hkinds w hw))
  have hcertificate : startsCertificate secret.toList = false := by
    have hend : ¬certificateEnding.toList.isSuffixOf
        (secret.toList.takeWhile fun c => !Text.isBlank c) = true := by
      intro hsuffix
      exact h (List.takeWhile_sublist _ |>.subset
        ((List.isSuffixOf_iff_suffix.mp hsuffix).subset (by decide)))
    simp only [startsCertificate, List.span_eq_takeWhile_dropWhile, hend, Bool.false_and]
  simp only [looksForeign, harmoured, hworded, hcertificate, Bool.or_self]

theorem matchesKey_eq (hhash : hash? algorithm = some hash) (hkey : looksForeign key = false) :
    matchesKey algorithm p [some key] =
      .ok (decide (Digest.mac hash (Utf8.encode key) p.signed = p.signature)) := by
  simp only [matchesKey, hhash, hkey, Bool.false_eq_true, ↓reduceIte]
  split_ifs with h <;> simp [h]

theorem algorithm_ne_empty (hhash : hash? algorithm = some hash) : algorithm ≠ "" := by
  rintro rfl
  cases hhash

/-- A header that names the algorithm leaves the decision to the digest. -/
theorem checkSignature_named (hread : ReadAs settings.secretKey key)
    (hhash : hash? settings.algorithm = some hash)
    (halg : Json.Fields.get? p.header "alg" = some (.text settings.algorithm)) :
    checkSignature settings p =
      if Digest.mac hash (Utf8.encode key) p.signed = p.signature then .ok ()
      else invalid "Signature verification failed." := by
  have hholds : (Json.text settings.algorithm).holds = true := by
    simp [Json.holds, algorithm_ne_empty hhash]
  simp only [checkSignature, halg, Option.getD_some, hholds, Bool.not_true, Bool.false_eq_true,
    ↓reduceIte, ne_eq, not_true_eq_false, hread.alone, matchesKey_eq hhash hread.usable, bind,
    Except.bind]
  by_cases h : Digest.mac hash (Utf8.encode key) p.signed = p.signature
  · rw [decide_eq_true h, if_pos h]
    rfl
  · rw [decide_eq_false h, if_neg h]
    rfl

/-- Any other header decides against the token. -/
theorem checkSignature_unnamed
    (halg : Json.Fields.get? p.header "alg" ≠ some (.text settings.algorithm)) :
    ∃ m, checkSignature settings p = invalid m := by
  simp only [checkSignature]
  split_ifs with hholds
  · exact ⟨_, rfl⟩
  · cases hname : (Json.Fields.get? p.header "alg").getD .null with
    | text name =>
      have hne : name ≠ settings.algorithm := by
        rintro rfl
        cases hget : Json.Fields.get? p.header "alg" with
        | none => simp [hget] at hname
        | some v =>
          rw [hget, Option.getD_some] at hname
          exact halg (hget.trans (congrArg some hname))
      exact ⟨_, if_pos hne⟩
    | _ => exact ⟨_, rfl⟩

theorem checkSignature_eq_ok (hread : ReadAs settings.secretKey key)
    (hhash : hash? settings.algorithm = some hash) : checkSignature settings p = .ok () ↔
      Json.Fields.get? p.header "alg" = some (.text settings.algorithm) ∧
        Digest.mac hash (Utf8.encode key) p.signed = p.signature := by
  by_cases halg : Json.Fields.get? p.header "alg" = some (.text settings.algorithm)
  · rw [checkSignature_named hread hhash halg]
    split_ifs with h <;> simp [halg, h, invalid]
  · obtain ⟨m, hm⟩ := checkSignature_unnamed halg
    simp [hm, halg, invalid]

theorem checkSignature_error {f : Failure} (hread : ReadAs settings.secretKey key)
    (hhash : hash? settings.algorithm = some hash) (h : checkSignature settings p = .error f) :
    ∃ m, f = .token (.invalid m) := by
  by_cases halg : Json.Fields.get? p.header "alg" = some (.text settings.algorithm)
  · rw [checkSignature_named hread hhash halg] at h
    split_ifs at h
    · cases h
      exact ⟨_, rfl⟩
  · obtain ⟨m, hm⟩ := checkSignature_unnamed halg
    rw [hm] at h
    cases h
    exact ⟨m, rfl⟩

/-! ### Claims -/

theorem bind_eq_ok {α β : Type} {x : Except Failure α} {f : α → Except Failure β} {y : β} :
    x >>= f = .ok y ↔ ∃ a, x = .ok a ∧ f a = .ok y := by
  cases x <;> simp [bind, Except.bind]

/-- The number of seconds that the end of a token's life stands for. -/
def lastSecond (v : Json) : Except Failure Int :=
  wholeSeconds (.claim "Expiration Time claim (exp) must be an integer.") v

theorem expiry_of_check {second : Int} (h : check claims second = .ok ()) {v : Json}
    (hv : Json.Fields.get? claims "exp" = some v) : ∃ last, lastSecond v = .ok last ∧ second ≤ last := by
  obtain ⟨_, _, h⟩ := bind_eq_ok.mp h
  obtain ⟨_, _, h⟩ := bind_eq_ok.mp h
  obtain ⟨_, hexp, _⟩ := bind_eq_ok.mp h
  simp only [checkExpiry, hv] at hexp
  obtain ⟨last, hlast, hle⟩ := bind_eq_ok.mp hexp
  refine ⟨last, hlast, Int.not_lt.mp fun hlt => ?_⟩
  rw [if_pos hlt] at hle
  cases hle

theorem decode_eq_ok : decode settings token now = .ok claims ↔ ∃ p, parts token = .ok p ∧
    checkSignature settings p = .ok () ∧ readObject "payload" p.payload = .ok claims ∧
    check claims now.unixSeconds = .ok () := by
  simp only [decode, bind_eq_ok, pure, Except.pure, Except.ok.injEq]
  constructor
  · rintro ⟨p, hp, ⟨⟩, hsig, claims', hread, ⟨⟩, hcheck, rfl⟩
    exact ⟨p, hp, hsig, hread, hcheck⟩
  · rintro ⟨p, hp, hsig, hread, hcheck⟩
    exact ⟨p, hp, (), hsig, claims, hread, (), hcheck, rfl⟩

theorem subject_eq_ok {id : Uuid} : subject settings token now = .ok id ↔
    ∃ claims spelling, decode settings token now = .ok claims ∧
      Json.Fields.get? claims "sub" = some (.text spelling) ∧ Uuid.ofLoose? spelling = some id := by
  simp only [subject, bind_eq_ok]
  constructor
  · rintro ⟨claims, hdecode, h⟩
    split at h
    · rename_i spelling hsub
      split at h
      · rename_i id' hid
        cases h
        exact ⟨claims, spelling, hdecode, hsub, hid⟩
      · cases h
    · cases h
  · rintro ⟨claims, spelling, hdecode, hsub, hid⟩
    exact ⟨claims, hdecode, by simp [hsub, hid, pure, Except.pure]⟩

/-- A token that is not signed as it should be is refused before its claims are looked at. -/
theorem decode_unsigned (hread : ReadAs settings.secretKey key)
    (hhash : hash? settings.algorithm = some hash) (h : ¬Signed hash key token) (now : Instant) :
    ∃ m, decode settings token now = .error (.token (.invalid m)) := by
  cases hp : parts token with
  | error f =>
    obtain ⟨m, rfl⟩ := parts_error hp
    exact ⟨m, by simp [decode, hp, bind, Except.bind]⟩
  | ok p =>
    cases hsig : checkSignature settings p with
    | error f =>
      obtain ⟨m, rfl⟩ := checkSignature_error hread hhash hsig
      exact ⟨m, by simp [decode, hp, hsig, bind, Except.bind]⟩
    | ok _ =>
      obtain ⟨header, payload, signature, hcuts, -, -, hdecode, hsigned⟩ := parts_eq_ok.mp hp
      obtain ⟨-, hmac⟩ := (checkSignature_eq_ok hread hhash).mp hsig
      rw [← hmac, hsigned] at hdecode
      exact absurd ⟨_, signature, hcuts.whole, hcuts.last, hdecode⟩ h

/-! ### Tokens made here -/

theorem sign_eq_ok : sign secret algorithm claims = .ok token ↔ ∃ hash, hash? algorithm = some hash ∧
    looksForeign secret = false ∧ token = signedText algorithm claims ++ "." ++
      Base64Url.encode (Digest.mac hash (Utf8.encode secret) (Utf8.encode (signedText algorithm claims))) := by
  simp only [sign]
  cases hash? algorithm with
  | none => simp
  | some hash =>
    cases looksForeign secret with
    | true => simp
    | false => simp [eq_comm]

theorem create_eq_ok {asked : Option Int} : create settings claims asked now = .ok token ↔
    ∃ last, now.add? (lifetime settings asked) = some last ∧
      sign settings.secretKey settings.algorithm
        (Json.Fields.set claims "exp" (.int last.unixSeconds)) = .ok token := by
  simp only [create]
  cases now.add? (lifetime settings asked) <;> simp

theorem holds_encodeJson {fields : Json.Fields} (h : Json.Faithful (.object fields)) :
    Holds (encodeJson fields) fields :=
  ⟨_, _, Base64Url.decode?_encode _, Utf8.decode?_encode _, Json.read_print Json.Style.blank_compact h⟩

/-- The header of a token made here. -/
def ownHeader (algorithm : String) : Json.Fields := [("alg", .text algorithm), ("typ", .text "JWT")]

theorem faithful_ownHeader (algorithm : String) : Json.Faithful (.object (ownHeader algorithm)) := by
  refine .object _ (by simp [ownHeader]) fun f hf => ?_
  simp only [ownHeader, List.mem_cons, List.not_mem_nil, or_false] at hf
  rcases hf with rfl | rfl <;> exact .text _

/-- The parts of a token made here. -/
def ownParts (hash : Digest.Hash) (key algorithm : String) (claims : Json.Fields) : Parts :=
  { header := ownHeader algorithm, payload := Utf8.encode ((Json.object claims).print .compact),
    signed := Utf8.encode (signedText algorithm claims),
    signature := Digest.mac hash (Utf8.encode key) (Utf8.encode (signedText algorithm claims)) }

theorem signedText_eq (algorithm : String) (claims : Json.Fields) :
    signedText algorithm claims = encodeJson (ownHeader algorithm) ++ "." ++ encodeJson claims := by
  rw [signedText, ownHeader]

theorem parts_of_sign (hhash : hash? algorithm = some hash) (h : sign key algorithm claims = .ok token) :
    parts token = .ok (ownParts hash key algorithm claims) := by
  obtain ⟨hash', hhash', -, htoken⟩ := sign_eq_ok.mp h
  obtain rfl : hash = hash' := Option.some.inj (hhash.symm.trans hhash')
  have hpoint := Base64Url.point_not_mem_encode
  have hcuts : Cuts token (encodeJson (ownHeader algorithm)) (encodeJson claims) _ :=
    ⟨signedText_eq algorithm claims ▸ htoken, hpoint _, hpoint _⟩
  refine parts_eq_ok.mpr ⟨_, _, _, hcuts, holds_encodeJson (faithful_ownHeader algorithm), ?_, ?_, ?_⟩
  · exact Base64Url.decode?_encode _
  · rw [Base64Url.decode?_encode, ownParts, signedText_eq]
  · rw [ownParts, signedText_eq]

theorem isBlank_of_mem_sign (h : sign key algorithm claims = .ok token) {c : Char}
    (hc : c ∈ token.toList) : Text.isBlank c = false := by
  obtain ⟨hash, -, -, rfl⟩ := sign_eq_ok.mp h
  have hblank := @Base64Url.isBlank_of_mem_encode
  have hpoint : Text.isBlank '.' = false := by decide
  simp only [signedText, encodeJson, String.toList_append, List.mem_append] at hc
  obtain ((((hc | hc) | hc) | hc) | hc) := hc
  · exact hblank hc
  · exact List.mem_singleton.mp hc ▸ hpoint
  · exact hblank hc
  · exact List.mem_singleton.mp hc ▸ hpoint
  · exact hblank hc

/-- A token signed with the key that the secret is read as is accepted when its claims are. -/
theorem decode_of_sign (hread : ReadAs settings.secretKey key)
    (hclaims : Json.Faithful (.object claims)) (h : sign key settings.algorithm claims = .ok token) :
    decode settings token now = (check claims now.unixSeconds).map fun _ => claims := by
  obtain ⟨hash, hhash, -, -⟩ := sign_eq_ok.mp h
  have halg : Json.Fields.get? (ownParts hash key settings.algorithm claims).header "alg" =
      some (.text settings.algorithm) := by
    simp [ownParts, ownHeader, Json.Fields.get?]
  have hsig : checkSignature settings (ownParts hash key settings.algorithm claims) = .ok () :=
    (checkSignature_eq_ok hread hhash).mpr ⟨halg, by rw [ownParts]⟩
  have hpayload : readObject "payload" (ownParts hash key settings.algorithm claims).payload = .ok claims :=
    readObject_eq_ok.mpr ⟨_, Utf8.decode?_encode _, Json.read_print Json.Style.blank_compact hclaims⟩
  simp only [decode, parts_of_sign hhash h, hsig, hpayload, bind, Except.bind]
  cases check claims now.unixSeconds <;> rfl

/-- The claims of a token made here for a user. -/
def ownClaims (id : Uuid) (last : Int) : Json.Fields := [("sub", .text id.text), ("exp", .int last)]

theorem faithful_ownClaims {id : Uuid} {last : Int}
    (h : (Nat.toDigits 10 last.natAbs).length ≤ Json.maxDigits) :
    Json.Faithful (.object (ownClaims id last)) := by
  refine .object _ (by simp [ownClaims]) fun f hf => ?_
  simp only [ownClaims, List.mem_cons, List.not_mem_nil, or_false] at hf
  rcases hf with rfl | rfl
  · exact .text _
  · exact .int _ h

theorem check_ownClaims (id : Uuid) (last second : Int) : check (ownClaims id last) second =
    if last < second then .error (.token .expired) else .ok () := by
  split_ifs with h <;>
    simp [check, ownClaims, checkIssued, checkNotBefore, checkExpiry, checkAudience, checkText,
      checkAccessHash, Json.Fields.get?, List.lookup_cons, wholeSeconds, bind, Except.bind, h, throw, throwThe,
      MonadExceptOf.throw, pure, Except.pure]

/-- A token made here for a user names that user until its last second is over. -/
theorem subject_of_sign {id : Uuid} {last : Int} (hread : ReadAs settings.secretKey key)
    (hlast : (Nat.toDigits 10 last.natAbs).length ≤ Json.maxDigits)
    (h : sign key settings.algorithm (ownClaims id last) = .ok token) : subject settings token now =
      if last < now.unixSeconds then .error (.token .expired) else .ok id := by
  have hsub : Json.Fields.get? (ownClaims id last) "sub" = some (.text id.text) := by
    simp [ownClaims, Json.Fields.get?]
  rw [subject, decode_of_sign hread (faithful_ownClaims hlast) h, check_ownClaims]
  split_ifs
  · rfl
  · simp only [Except.map, bind, Except.bind, hsub, Uuid.ofLoose?_text, pure, Except.pure]

end PayoutRegistry.Token
