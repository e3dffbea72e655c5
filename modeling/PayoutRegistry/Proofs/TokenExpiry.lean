import PayoutRegistry.Proofs.JsonAlignment
import PayoutRegistry.Proofs.TokenLife

/-!
When tokens end. A token ends in the second that its lifetime leads to, whatever end its claims had before, and
nobody accepts it later. Only a lifetime of zero is not kept: such a token lasts for the configured minutes.
-/
namespace PayoutRegistry.Token

variable {settings : Settings} {claims found : Json.Fields} {asked : Option Int} {now : Instant}
  {token : String} {p : Parts} {last : Int}

/-- How long a token is to last, in microseconds: as long as was asked for, else the configured minutes. -/
def term (settings : Settings) (asked : Option Int) : Int :=
  asked.getD (settings.tokenMinutes * microsPerMinute)

theorem lifetime_eq_term (settings : Settings) (h : asked ≠ some 0) :
    lifetime settings asked = term settings asked := by
  simp only [lifetime]
  split
  · rfl
  · exact absurd rfl h
  · rfl

/-- A token that ends in the second `last`, with the other claims that were given. -/
structure Ends (claims : Json.Fields) (token : String) (last : Int) : Prop where
  /-- The payload is the text of the claims with that end. -/
  payload : ∃ p fields, parts token = .ok p ∧
    p.payload = Utf8.encode ((Json.object fields).print .compact) ∧
    Json.Fields.get? fields "exp" = some (.int last) ∧
    (∀ key, key ≠ "exp" → Json.Fields.get? fields key = Json.Fields.get? claims key) ∧
    (Json.Faithful (.object claims) → readObject "payload" p.payload = .ok fields)
  /-- Whoever accepts the token finds that end, and it is not over yet. -/
  accepted : ∀ (settings : Settings) (now : Instant) (found : Json.Fields),
    decode settings token now = .ok found →
      Json.Fields.get? found "exp" = some (.int last) ∧ now.unixSeconds ≤ last

/-! ### The end in the payload -/

/-- Nothing else is read where an end was written. -/
theorem end_of_readObject (hlast : (Nat.toDigits 10 last.natAbs).length ≤ Json.maxDigits)
    (hpayload : p.payload =
      Utf8.encode ((Json.object (Json.Fields.set claims "exp" (.int last))).print .compact))
    (h : readObject "payload" p.payload = .ok found) :
    Json.Fields.get? found "exp" = some (.int last) := by
  obtain ⟨text, hdecode, hread⟩ := readObject_eq_ok.mp h
  rw [hpayload, Utf8.decode?_encode] at hdecode
  cases hdecode
  have hmem : "exp" ∈ (Json.Fields.set claims "exp" (.int last)).map Prod.fst := by
    rw [Json.keys_set]
    split_ifs with hthere
    · exact hthere
    · simp
  refine Json.get?_of_read_print Json.Style.blank_compact hlast hread hmem ?_
  intro f hf hkey
  rcases Json.mem_set hf with rfl | ⟨-, hne⟩
  · rfl
  · exact absurd hkey hne

theorem ends_of_sign {secret algorithm : String}
    (hlast : (Nat.toDigits 10 last.natAbs).length ≤ Json.maxDigits)
    (h : sign secret algorithm (Json.Fields.set claims "exp" (.int last)) = .ok token) :
    Ends claims token last := by
  obtain ⟨hash, hhash, -⟩ := sign_eq_ok.mp h
  have hparts := parts_of_sign hhash h
  refine ⟨⟨_, _, hparts, rfl, ?_, ?_, ?_⟩, ?_⟩
  · rw [Json.get?_set, if_pos rfl]
  · intro key hkey
    rw [Json.get?_set, if_neg hkey]
  · intro hclaims
    have hfaithful : Json.Faithful (.object (Json.Fields.set claims "exp" (.int last))) :=
      Json.faithful_set hclaims (.int last hlast)
    exact readObject_eq_ok.mpr
      ⟨_, Utf8.decode?_encode _, Json.read_print Json.Style.blank_compact hfaithful⟩
  · intro settings now found hdecode
    obtain ⟨p, hp, -, hread, hcheck⟩ := decode_eq_ok.mp hdecode
    cases hparts.symm.trans hp
    have hend := end_of_readObject hlast rfl hread
    obtain ⟨last', hlast', hle⟩ := expiry_of_check hcheck hend
    cases hlast'
    exact ⟨hend, hle⟩

/-! ### The end that is written -/

theorem create_eq_error_overflow : create settings claims asked now = .error .overflow ↔
    now.add? (lifetime settings asked) = none := by
  simp only [create]
  cases now.add? (lifetime settings asked) with
  | none => simp
  | some last =>
    simp only [sign]
    split
    · simp
    · split_ifs <;> simp

theorem exists_sign_iff {secret algorithm : String} : (∃ token, sign secret algorithm claims = .ok token) ↔
    (hash? algorithm).isSome = true ∧ looksForeign secret = false := by
  simp only [sign]
  cases hash? algorithm with
  | none => simp
  | some hash => cases looksForeign secret <;> simp

/-- Unless a lifetime of zero is asked for, a token ends in the whole second to which the time that is asked for
leads, or else the configured time, whatever end its claims had. It is made exactly if that second lies in the
years and the token can be signed. One that is to last for no time or less is accepted in no later second than
the one in which it was made. -/
theorem lifetimes_kept (settings : Settings) (claims : Json.Fields) (asked : Option Int) (now : Instant)
    (hasked : asked ≠ some 0) :
    (create settings claims asked now = .error .overflow ↔
      now.micros + term settings asked < 0 ∨ microsLimit ≤ now.micros + term settings asked) ∧
    ((∃ token, create settings claims asked now = .ok token) ↔
      0 ≤ now.micros + term settings asked ∧ now.micros + term settings asked < microsLimit ∧
        (hash? settings.algorithm).isSome = true ∧ looksForeign settings.secretKey = false) ∧
    ∀ token, create settings claims asked now = .ok token →
      ∃ last : Int, Ends claims token last ∧
        last * microsPerSecond ≤ now.micros + term settings asked - Instant.epochMicros ∧
        now.micros + term settings asked - Instant.epochMicros < (last + 1) * microsPerSecond ∧
        (term settings asked ≤ 0 → ∀ (settings' : Settings) (later : Instant) (found : Json.Fields),
          decode settings' token later = .ok found → later.unixSeconds ≤ now.unixSeconds) := by
  have hterm := lifetime_eq_term settings hasked
  refine ⟨?_, ?_, ?_⟩
  · rw [create_eq_error_overflow, hterm]
    exact Instant.add?_eq_none
  · simp only [create_eq_ok, hterm]
    constructor
    · rintro ⟨token, due, hdue, hsign⟩
      obtain ⟨hstart, hend⟩ := Instant.exists_add?_iff.mp ⟨due, hdue⟩
      exact ⟨hstart, hend, exists_sign_iff.mp ⟨token, hsign⟩⟩
    · rintro ⟨hstart, hend, hkey⟩
      obtain ⟨due, hdue⟩ := Instant.exists_add?_iff.mpr ⟨hstart, hend⟩
      obtain ⟨token, hsign⟩ := exists_sign_iff.mpr hkey
      exact ⟨token, due, hdue, hsign⟩
  · intro token h
    obtain ⟨due, hdue, hsign⟩ := create_eq_ok.mp h
    have hends := ends_of_sign due.length_digits_unixSeconds hsign
    rw [hterm] at hdue
    have hmicros := Instant.add?_eq_some.mp hdue
    obtain ⟨hfloor, hceil⟩ := Instant.unixSeconds_eq_iff.mp (rfl : due.unixSeconds = due.unixSeconds)
    rw [hmicros] at hfloor hceil
    refine ⟨due.unixSeconds, hends, hfloor, hceil, ?_⟩
    intro hover settings' later found hdecode
    have hle : due ≤ now := by
      change due.micros ≤ now.micros
      omega
    exact Int.le_trans (hends.accepted settings' later found hdecode).2 (Instant.unixSeconds_mono hle)

/-- The middle of the first second of 1970. -/
def halfPast : Instant := { micros := Instant.epochMicros + 500000, micros_lt := by decide }

/-- A token that is to end a second before it is made ends in the last second of 1969, whatever end its claims
had, and nobody accepts it from then on. -/
theorem lapsed_token_never_accepted : ∃ token,
    create (keyed "abc").settings [("exp", .int 5), ("sub", .text "a")] (some (-1000000)) halfPast =
      .ok token ∧
    Ends [("exp", .int 5), ("sub", .text "a")] token (-1) ∧
    ∀ (settings : Settings) (later : Instant) (found : Json.Fields), halfPast ≤ later →
      decode settings token later ≠ .ok found := by
  obtain ⟨-, hmade, hends⟩ := lifetimes_kept (keyed "abc").settings [("exp", .int 5), ("sub", .text "a")]
    (some (-1000000)) halfPast (by decide)
  obtain ⟨token, htoken⟩ := hmade.mpr
    ⟨by decide, by decide, rfl, looksForeign_eq_false (by decide)⟩
  obtain ⟨last, hlast, hfloor, hceil, -⟩ := hends token htoken
  have hdue : (halfPast.micros : Int) + term (keyed "abc").settings (some (-1000000)) -
      Instant.epochMicros = -500000 := by decide
  rw [hdue] at hfloor hceil
  obtain rfl : last = -1 := by
    simp only [microsPerSecond] at hfloor hceil
    omega
  refine ⟨token, htoken, hlast, ?_⟩
  intro settings later found hlater hdecode
  have hmono := Instant.unixSeconds_mono hlater
  have hover := (hlast.accepted settings later found hdecode).2
  have hstart : halfPast.unixSeconds = 0 := by decide
  omega

/-- Settings under which tokens last for half an hour. -/
def halfHour : Settings := { (keyed "abc").settings with tokenMinutes := 30 }

/-- The first half hour of 1970 is over. -/
def halfHourPast : Instant := { micros := Instant.epochMicros + 1800000000, micros_lt := by decide }

/-- A lifetime of zero is not kept: the token lasts for half an hour, and is accepted in the next second. -/
theorem zero_lifetime_outlasted : ¬∀ (settings : Settings) (claims : Json.Fields) (asked : Int)
    (now due : Instant) (token : String), now.add? asked = some due →
      create settings claims (some asked) now = .ok token → Ends claims token due.unixSeconds := by
  intro h
  have hlast : halfHourPast.unixSeconds = 1800 := by decide
  have hset : Json.Fields.set [("sub", .text "a")] "exp" (.int 1800) =
      [("sub", .text "a"), ("exp", .int 1800)] := rfl
  obtain ⟨token, hsign⟩ : ∃ token, sign halfHour.secretKey halfHour.algorithm
      [("sub", .text "a"), ("exp", .int 1800)] = .ok token :=
    exists_sign_iff.mpr ⟨rfl, looksForeign_eq_false (by decide)⟩
  have hmade : create halfHour [("sub", .text "a")] (some 0) (keyed "abc").now = .ok token :=
    create_eq_ok.mpr ⟨halfHourPast, by decide, by rw [hlast, hset, hsign]⟩
  have hends := h halfHour [("sub", .text "a")] 0 _ _ token (Instant.add?_zero (keyed "abc").now) hmade
  have hclaims : Json.Faithful (.object [("sub", .text "a"), ("exp", .int 1800)]) :=
    hset ▸ Json.faithful_set (.object _ (by simp) (by simp [Json.Faithful.text])) (.int 1800 (by decide))
  have hdecode : decode halfHour token (inNextSecond "abc").now =
      .ok [("sub", .text "a"), ("exp", .int 1800)] := by
    rw [decode_of_sign readAs_abc hclaims hsign, now_inNextSecond]
    rfl
  have hover := (hends.accepted _ _ _ hdecode).2
  rw [now_inNextSecond, now_keyed] at hover
  omega

end PayoutRegistry.Token
