import PayoutRegistry.Proofs.History
import PayoutRegistry.Proofs.JsonText
import PayoutRegistry.Proofs.Refusals

/-!
Accounts that wait to be verified. They have a code that a form takes as it is, and a deadline; verified
accounts have neither. So verifying never finds that a code or a deadline is missing.
-/
namespace PayoutRegistry

/-- A code as it is sent: six digits, of which the first is not zero. -/
structure Code.WellFormed (code : String) : Prop where
  length : code.length = 6
  digits : ∀ c ∈ code.toList, c.isDigit = true
  lead : code.toList.head? ≠ some '0'

/-- A row that has a code and a deadline exactly if it waits to be verified. -/
structure Account.Consistent (a : Account) : Prop where
  code : a.isVerified = true ↔ a.code = none
  deadline : a.isVerified = true ↔ a.deadline = none
  wellFormed : ∀ code, a.code = some code → Code.WellFormed code

/-- A call whose draw, if it makes one, is that of a code. -/
def Action.Drawn : Action → Prop
  | .add _ _ _ _ draw => draw < Code.count
  | _ => True

/-- A history in which every draw is that of a code. -/
def Drawn (events : List Event) : Prop := ∀ c a, Event.call c a ∈ events → a.Drawn

namespace Code

theorem wellFormed_ofDraw {draw : Nat} (h : draw < count) : WellFormed (ofDraw draw) := by
  have hlist : (ofDraw draw).toList = Nat.toDigits 10 (least + draw) := String.toList_ofList
  have hle : (Nat.toDigits 10 (least + draw)).length ≤ 6 :=
    (Nat.length_toDigits_le_iff (by decide) (by decide)).mpr (by simp only [least, count] at *; omega)
  have hlt : ¬(Nat.toDigits 10 (least + draw)).length ≤ 5 := fun hfive => by
    have := (Nat.length_toDigits_le_iff (by decide) (by decide)).mp hfive
    simp only [least] at this
    omega
  constructor
  · rw [← String.length_toList, hlist]
    omega
  · intro c hc
    rw [hlist] at hc
    exact Nat.isDigit_of_mem_toDigits (by decide) (by decide) hc
  · rw [hlist]
    intro hzero
    have := Json.head_toDigits _ hzero
    simp only [least] at this
    omega

/-- A form takes a code as it was sent. -/
theorem WellFormed.read {code : String} (h : WellFormed code) :
    CodeForm.read [("verification_code", .text code)] = .value { code } := by
  have htext : Form.text 6 (some 6) (.text code) = .value code := by
    simp [Form.text, Form.anyText, Checked.bind, h.length]
  have hfield : Form.field [("verification_code", .text code)] "verification_code"
      (Form.text 6 (some 6)) = .value code := by
    simp [Form.field, Json.Fields.get?, htext, Checked.under]
  rw [CodeForm.read, hfield]
  rfl

end Code

namespace Operation

variable {a : Account} {id owner : Uuid} {form : AccountForm} {code : String} {t now : Instant}

theorem consistent_newAccount (h : Code.WellFormed code) :
    (newAccount id owner form code t now).Consistent where
  code := by simp [newAccount]
  deadline := by simp [newAccount]
  wellFormed := by
    rintro _ ⟨⟩
    exact h

theorem consistent_refreshed (h : Code.WellFormed code) :
    (refreshed a form code t now).Consistent where
  code := by simp [refreshed]
  deadline := by simp [refreshed]
  wellFormed := by
    rintro _ ⟨⟩
    exact h

end Operation

section Steps

variable {c : Circumstances} {s : Store} {a : Action} {x : Answer} {l : Ledger}

theorem consistent_admitted (l : Ledger) (b : Account) (now : Instant) :
    (admitted l b now).Consistent where
  code := by simp [admitted, Operation.verified]
  deadline := by simp [admitted, Operation.verified]
  wellFormed := nofun

theorem consistent_accepted (h : ∀ b ∈ s.ledger.accounts, b.Consistent) (hdraw : a.Drawn)
    (ha : Accepted c s a x l) : ∀ b ∈ l.accounts, b.Consistent := by
  intro b hb
  cases ha with
  | refresh _ _ _ =>
    rcases Ledger.mem_overwrite.mp hb with ⟨rfl, -⟩ | ⟨hb, -⟩
    · exact Operation.consistent_refreshed (Code.wellFormed_ofDraw hdraw)
    · exact h b hb
  | insert _ _ _ =>
    rcases Ledger.mem_extended.mp hb with hb | rfl
    · exact h b hb
    · exact Operation.consistent_newAccount (Code.wellFormed_ofDraw hdraw)
  | verify _ _ _ _ _ =>
    rcases Ledger.mem_overwrite.mp hb with ⟨rfl, -⟩ | ⟨hb, -⟩
    · exact consistent_admitted ..
    · exact h b hb
  | promote _ _ =>
    rcases Ledger.mem_rewritten.mp hb with ⟨hb, -⟩ | ⟨d, hd, -, rfl⟩
    · exact h b hb
    · exact ⟨(h d hd).code, (h d hd).deadline, (h d hd).wellFormed⟩
  | delete _ _ => exact h b (Ledger.mem_without.mp hb).1
  | list => exact h b hb

/-- Where all rows are consistent, only the database can make verifying miss a code or a deadline. -/
theorem verify_refused {owner id : Uuid} {submitted : String} {r : Refusal}
    (h : ∀ b ∈ s.ledger.accounts, b.Consistent)
    (hr : (Operation.verify c owner id submitted s).result = .error (.refusal r))
    (hmissing : r = .noCodeIssued ∨ r = .codeExpired none) :
    ∃ call, c.mishaps call = some (.refusal r) := by
  have hperform : ((Action.verify owner id submitted).perform c s).result = .error (.refusal r) :=
    map_eq_error.mpr hr
  rcases perform_refused hperform with href | ⟨detail, rfl⟩ | hm
  · exfalso
    cases href with
    | uncoded found waiting unwritten =>
      have hb := h _ (Ledger.owned?_some found).1
      rcases unwritten with hnone | hempty
      · rw [hb.code.mpr hnone] at waiting
        cases waiting
      · have := (hb.wellFormed _ hempty).length
        simp at this
    | @expired _ _ _ b found waiting _ _ _ =>
      have hb := h _ (Ledger.owned?_some found).1
      cases hd : b.deadline with
      | none =>
        rw [hb.deadline.mpr hd] at waiting
        cases waiting
      | some t => simp [hd] at hmissing
    | _ => simp at hmissing
  · simp at hmissing
  · exact hm

end Steps

theorem consistent_after {events : List Event} (h : Drawn events) :
    ∀ a ∈ (after events).ledger.accounts, a.Consistent := by
  refine (after_induction (P := fun l => ∀ a ∈ l.accounts, a.Consistent) events nofun ?_ ?_).2
  · intro l l' hl hc
    rwa [hl]
  · intro c s a x l he _ hc ha
    exact consistent_accepted hc (h c a he) ha

/-- After every history each row has a code and a deadline exactly while it waits to be verified, and then
it is not primary; the code is taken by the form as it is. So verifying is never refused for want of a code
or of a deadline, unless the database itself answers so. -/
theorem waiting_rows_complete (events : List Event) (h : Drawn events) :
    (∀ a ∈ (after events).ledger.accounts,
      (a.isVerified = true ↔ a.code = none) ∧ (a.isVerified = true ↔ a.deadline = none) ∧
        (a.isVerified = false → a.isPrimary = false ∧ ∃ code, a.code = some code ∧
          Code.WellFormed code ∧
            CodeForm.read [("verification_code", .text code)] = .value { code })) ∧
    ∀ (c : Circumstances) (owner id : Uuid) (submitted : String) (r : Refusal),
      (Operation.verify c owner id submitted (after events)).result = .error (.refusal r) →
      r = .noCodeIssued ∨ r = .codeExpired none → ∃ call, c.mishaps call = some (.refusal r) := by
  have hc := consistent_after h
  refine ⟨?_, fun c owner id submitted r hr hmissing => verify_refused hc hr hmissing⟩
  intro a ha
  refine ⟨(hc a ha).code, (hc a ha).deadline, ?_⟩
  intro hw
  refine ⟨(sound_after events).not_primary ha hw, ?_⟩
  cases hcode : a.code with
  | none =>
    rw [(hc a ha).code.mpr hcode] at hw
    cases hw
  | some code =>
    have hwell := (hc a ha).wellFormed code hcode
    exact ⟨code, rfl, hwell, hwell.read⟩

/-- A second account waits with a code of its own, and a wrong code for it is only a mismatch. -/
theorem second_account_waits :
    let owner : Uuid := .ofSerial 9
    let events := adding owner "9876543210" 382913 :: joined owner "0123456789" 1
    Drawn events ∧
      (∃ a ∈ (after events).ledger.accounts, a.isVerified = false ∧ a.code = some "482913" ∧
        CodeForm.read [("verification_code", .text "482913")] = .value { code := "482913" }) ∧
      (Operation.verify default owner (.ofSerial 2) "000000" (after events)).result =
        .error (.refusal .codeMismatch) := by
  intro owner events
  have hdrawn : Drawn events := by
    intro c a he
    simp only [events, adding, joined, List.mem_cons, List.not_mem_nil, or_false] at he
    rcases he with ⟨⟨⟩⟩ | ⟨⟨⟩⟩ | ⟨⟨⟩⟩
    · exact (by decide : 382913 < Code.count)
    · trivial
    · exact (by decide : 0 < Code.count)
  obtain ⟨a, ha, hw, hcode⟩ : ∃ a ∈ (after events).ledger.accounts, a.isVerified = false ∧
      a.code = some "482913" := by
    decide +kernel
  obtain ⟨-, code, hcode', -, hread⟩ := ((waiting_rows_complete events hdrawn).1 a ha).2.2 hw
  obtain rfl := Option.some.inj (hcode.symm.trans hcode')
  exact ⟨hdrawn, ⟨a, ha, hw, hcode, hread⟩, by decide +kernel⟩

end PayoutRegistry
