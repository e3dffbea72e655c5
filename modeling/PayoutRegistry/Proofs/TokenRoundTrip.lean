import PayoutRegistry.Proofs.TokenExpiry

/-!
What goes into a token comes out of it. Claims of whole numbers, texts, truth values, lists and objects are found
again, with the end of the token's life among them, as long as that end has not passed.
-/
namespace PayoutRegistry.Token

variable {settings : Settings} {claims found : Json.Fields} {asked : Option Int} {now : Instant}
  {token : String} {last second : Int} {objects : List Json.Fields} {place : Nat}

/-- Claims that no reader looks at, apart from the end of a token's life and the one that names its subject. -/
structure Plain (claims : Json.Fields) : Prop where
  absent : ∀ key ∈ ["aud", "iat", "nbf", "jti", "at_hash"], Json.Fields.get? claims key = none
  subject : ∀ v, Json.Fields.get? claims "sub" = some v → ∃ s, v = .text s

/-- The claims with the end `last`: it stands in the place of the end that was there, or else behind all others. -/
structure EndsAt (claims : Json.Fields) (last : Int) (found : Json.Fields) : Prop where
  keys : found.map Prod.fst =
    if "exp" ∈ claims.map Prod.fst then claims.map Prod.fst else claims.map Prod.fst ++ ["exp"]
  values : ∀ key, Json.Fields.get? found key =
    if key = "exp" then some (.int last) else Json.Fields.get? claims key

theorem endsAt_set (claims : Json.Fields) (last : Int) :
    EndsAt claims last (Json.Fields.set claims "exp" (.int last)) :=
  ⟨Json.keys_set claims .., fun key => Json.get?_set claims "exp" key (.int last)⟩

/-- Only the end decides whether plain claims are accepted. -/
theorem check_endsAt (hplain : Plain claims) (h : EndsAt claims last found) : check found second =
    if second ≤ last then .ok () else .error (.token .expired) := by
  have habsent : ∀ key ∈ ["aud", "iat", "nbf", "jti", "at_hash"], Json.Fields.get? found key = none := by
    intro key hkey
    have hne : key ≠ "exp" := by
      rintro rfl
      simp at hkey
    rw [h.values, if_neg hne]
    exact hplain.absent key hkey
  have hexp : Json.Fields.get? found "exp" = some (.int last) := by
    rw [h.values, if_pos rfl]
  have hissued : checkIssued found = .ok () := by
    rw [checkIssued, habsent "iat" (by decide)]
  have hbegun : checkNotBefore found second = .ok () := by
    rw [checkNotBefore, habsent "nbf" (by decide)]
  have haudience : checkAudience found = .ok () := by
    rw [checkAudience, habsent "aud" (by decide)]
  have hid : checkText found "jti" "JWT ID must be a string." = .ok () := by
    rw [checkText, habsent "jti" (by decide)]
  have hhash : checkAccessHash found = .ok () := by
    rw [checkAccessHash, habsent "at_hash" (by decide)]
  have hsubject : checkText found "sub" "Subject must be a string." = .ok () := by
    rw [checkText, h.values, if_neg (by decide)]
    cases hv : Json.Fields.get? claims "sub" with
    | none => rfl
    | some v =>
      obtain ⟨s, rfl⟩ := hplain.subject v hv
      rfl
  rw [check, hissued, hbegun, haudience, hsubject, hid, hhash]
  simp only [checkExpiry, hexp, wholeSeconds, bind, Except.bind]
  by_cases hle : second ≤ last
  · rw [if_neg (Int.not_lt.mpr hle), if_pos hle]
    rfl
  · rw [if_pos (Int.not_le.mp hle), if_neg hle]
    rfl

/-- What is made of claims among other objects is what is made of them alone, and no object that was there is
written over. -/
theorem issue_spec (h : objects[place]? = some claims) :
    (issue settings objects place asked now).1 = create settings claims asked now ∧
      objects <+: (issue settings objects place asked now).2 := by
  have hclaims : objects.getD place [] = claims := by
    rw [List.getD_eq_getElem?_getD, h, Option.getD_some]
  simp only [issue, create, hclaims]
  cases now.add? (lifetime settings asked) with
  | none => exact ⟨rfl, List.prefix_append objects [claims]⟩
  | some last =>
    have hended : (objects ++ [claims]).modify objects.length
        (fun claims => Json.Fields.set claims "exp" (.int last.unixSeconds)) =
          objects ++ [Json.Fields.set claims "exp" (.int last.unixSeconds)] :=
      List.modifyTailIdx_add (List.modifyHead _) 0 objects [claims]
    have hcopy (fields : Json.Fields) : (objects ++ [fields]).getD objects.length [] = fields := by
      rw [List.getD_eq_getElem?_getD, List.getElem?_concat_length, Option.getD_some]
    simp only [hended, hcopy]
    exact ⟨trivial, List.prefix_append _ _⟩

/-- Where the secret is read as itself and can be used, claims that no reader looks at come back as they went in,
whatever they hold, with the end of the token's life in its place: in that second and before. In every later second
the token is refused as expired. No object is written over, neither the claims nor any other. -/
theorem claims_come_back (settings : Settings) (claims : Json.Fields) (asked : Option Int) (now due : Instant)
    (hread : ReadAs settings.secretKey settings.secretKey) (hhash : (hash? settings.algorithm).isSome = true)
    (hclaims : Json.Faithful (.object claims)) (hplain : Plain claims)
    (hdue : now.add? (lifetime settings asked) = some due) :
    ∃ token found, create settings claims asked now = .ok token ∧ Ends claims token due.unixSeconds ∧
      EndsAt claims due.unixSeconds found ∧
      (∀ later, decode settings token later =
        if later.unixSeconds ≤ due.unixSeconds then .ok found else .error (.token .expired)) ∧
      ∀ (objects : List Json.Fields) (place : Nat), objects[place]? = some claims →
        (issue settings objects place asked now).1 = .ok token ∧
          objects <+: (issue settings objects place asked now).2 := by
  obtain ⟨token, hsign⟩ := exists_sign_iff.mpr ⟨hhash, hread.usable⟩
  have hcreate : create settings claims asked now = .ok token := create_eq_ok.mpr ⟨due, hdue, hsign⟩
  have hends : Ends claims token due.unixSeconds := ends_of_sign due.length_digits_unixSeconds hsign
  have hfound := endsAt_set claims due.unixSeconds
  refine ⟨token, _, hcreate, hends, hfound, ?_, ?_⟩
  · intro later
    have hfaithful : Json.Faithful (.object (Json.Fields.set claims "exp" (.int due.unixSeconds))) :=
      Json.faithful_set hclaims (.int _ due.length_digits_unixSeconds)
    rw [decode_of_sign hread hfaithful hsign, check_endsAt hplain hfound]
    split_ifs <;> rfl
  · intro objects place hplace
    obtain ⟨htoken, hkept⟩ := @issue_spec settings claims asked now objects place hplace
    exact ⟨htoken.trans hcreate, hkept⟩

/-- Claims with parts, and with an end that is none. -/
def nested : Json.Fields :=
  [("sub", .text "é"), ("exp", .null), ("data", .list [.bool true, .object [("𝄞", .int (-3))]])]

theorem faithful_nested : Json.Faithful (.object nested) := by
  have hinner : Json.Faithful (.object [("𝄞", .int (-3))]) :=
    .object _ (by simp) (by simpa using Json.Faithful.int (-3) (by decide))
  have hdata : Json.Faithful (.list [.bool true, .object [("𝄞", .int (-3))]]) :=
    .list _ (by simpa using ⟨Json.Faithful.bool true, hinner⟩)
  refine .object _ (by decide) ?_
  simpa [nested] using ⟨Json.Faithful.text "é", Json.Faithful.null, hdata⟩

/-- They come back in the first second of 1970, where the token ends, and not in the next one. -/
theorem nested_come_back : ∃ token found,
    create (keyed "abc").settings nested none (keyed "abc").now = .ok token ∧ EndsAt nested 0 found ∧
      decode (keyed "abc").settings token (keyed "abc").now = .ok found ∧
      decode (keyed "abc").settings token (inNextSecond "abc").now = .error (.token .expired) := by
  have hplain : Plain nested := ⟨by decide, fun v hv => ⟨"é", (Option.some.inj hv).symm⟩⟩
  have hdue : (keyed "abc").now.add? (lifetime (keyed "abc").settings none) = some (keyed "abc").now :=
    Instant.add?_zero _
  obtain ⟨token, found, hcreate, -, hfound, hdecode, -⟩ :=
    claims_come_back (keyed "abc").settings nested none (keyed "abc").now (keyed "abc").now readAs_abc rfl
      faithful_nested hplain hdue
  rw [now_keyed] at hfound hdecode
  refine ⟨token, found, hcreate, hfound, ?_, ?_⟩
  · rw [hdecode, now_keyed]
    rfl
  · rw [hdecode, now_inNextSecond]
    rfl

theorem not_signed_quoted : ¬Signed .sha256 "abc" (pass "\"abc\"") := by
  rw [pass, signed_append (Base64Url.point_not_mem_encode _), Base64Url.decode?_encode]
  exact fun hmac => mac_quoted_ne (Option.some.inj hmac).symm

/-- A secret in quotation marks is read as the text between them, and claims do not come back from a token that was
made with it. -/
theorem quoted_secret_loses_claims : ¬∀ (settings : Settings) (claims : Json.Fields) (now due : Instant)
    (token : String), settings.algorithm = "HS256" → Json.Faithful (.object claims) → Plain claims →
      now.add? (lifetime settings none) = some due → now.unixSeconds ≤ due.unixSeconds →
        create settings claims none now = .ok token → ∃ found, decode settings token now = .ok found := by
  intro h
  let quoted := keyed "\"abc\""
  let claims : Json.Fields := [("sub", .text (john "chosen" true).id.text)]
  have hclaims : Json.Faithful (.object claims) :=
    .object _ (by simp [claims]) (by simp [claims, Json.Faithful.text])
  have hplain : Plain claims := ⟨by decide, fun v hv => ⟨_, (Option.some.inj hv).symm⟩⟩
  have hdue : quoted.now.add? (lifetime quoted.settings none) = some quoted.now := Instant.add?_zero _
  have hcreate : create quoted.settings claims none quoted.now = .ok (pass "\"abc\"") :=
    tokenFor_keyed (by decide)
  obtain ⟨found, hdecode⟩ := h quoted.settings claims quoted.now quoted.now _ rfl hclaims hplain hdue
    (Int.le_refl _) hcreate
  have hread : ReadAs quoted.settings.secretKey "abc" := readAs_quoted
  obtain ⟨m, hrefused⟩ := decode_unsigned hread rfl not_signed_quoted quoted.now
  rw [hrefused] at hdecode
  cases hdecode

end PayoutRegistry.Token
