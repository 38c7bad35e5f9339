import Bootstrap.Host.Identity
import Bootstrap.Proofs.Effect
import Bootstrap.Proofs.Instant.Text
import Mathlib.Data.List.Basic

/-!
# What identifiers are made of

An identifier is the digest of a text in which the identity of the machine, a label and a time stand behind each other with
hyphens between them. Nothing is escaped, and all three may have hyphens in them, letters or digits; still the text is read in
one way only. From its end the time is found (`Instant.append_text_inj`), then the label, which is all letters, and the rest is
the identity.

* `Host.identityText_inj` — two such texts are the same only if all three parts are.
* `Host.machineHash_apart` — so identifiers for two labels or two instants are the same only if SHA-256 has a collision.
-/

namespace Bootstrap

/-! ## Hexadecimal text -/

namespace Digest

/-- Two different inputs with the same digest. -/
def Collide (a b : List UInt8) : Prop := a ≠ b ∧ sha256 a = sha256 b

theorem hexDigit_inj : ∀ m < 16, ∀ n < 16, hexDigit m = hexDigit n → m = n := by decide

/-- The digits tell the bytes. Each byte gives two digits, of which the first tells the higher half and the second the
lower one. -/
theorem hex_inj {as bs : List UInt8} (h : hex as = hex bs) : as = bs := by
  have hdigits := congrArg String.toList h
  simp only [hex, String.toList_ofList] at hdigits
  clear h
  -- byte by byte: two digits, of which each tells half of the byte
  induction as generalizing bs with
  | nil =>
      cases bs with
      | nil => rfl
      | cons b bs => cases hdigits
  | cons a as ih =>
      cases bs with
      | nil => cases hdigits
      | cons b bs =>
          simp only [List.flatMap_cons, List.cons_append, List.nil_append, List.cons.injEq] at hdigits
          obtain ⟨hhigh, hlow, hrest⟩ := hdigits
          have ha := a.toNat_lt
          have hb := b.toNat_lt
          have hhigh := hexDigit_inj _ (by omega) _ (by omega) hhigh
          have hlow := hexDigit_inj _ (by omega) _ (by omega) hlow
          have hbyte : a = b := UInt8.toNat_inj.mp (by omega)
          rw [hbyte, ih hrest]

end Digest

namespace Host

open Effect

/-! ## Identity texts -/

/-- A label is a word of letters. -/
structure IsLabel (label : String) : Prop where
  ne_empty : label ≠ ""
  isAlpha : ∀ c ∈ label.toList, c.isAlpha = true

instance (label : String) : Decidable (IsLabel label) :=
  decidable_of_iff (label ≠ "" ∧ label.toList.all Char.isAlpha = true)
    ⟨fun h => ⟨h.1, List.all_eq_true.mp h.2⟩, fun h => ⟨h.ne_empty, List.all_eq_true.mpr h.isAlpha⟩⟩

example : ∀ label ∈ ["hash", "vault", "identifier", "token"], IsLabel label := by decide

section Identities

variable {id id' label label' : String} {now now' : Instant}

/-- The text that is hashed, as characters. The hyphens are what it has to be cut at to read it back. -/
theorem toList_identityText (id label : String) (now : Instant) :
    (identityText id label now).toList = (id.toList ++ '-' :: label.toList) ++ '-' :: now.text.toList := by
  simp [identityText, String.toList_append]

/-- A label does not end in a hyphen, so the one behind it is the one that parts it from the instant. -/
theorem IsLabel.getLast?_ne (h : IsLabel label) (id : List Char) :
    (id ++ '-' :: label.toList).getLast? ≠ some '-' := by
  have hne : label.toList ≠ [] := fun hnil => h.ne_empty (String.toList_eq_nil_iff.mp hnil)
  rw [List.getLast?_append_of_ne_nil _ (by simp), List.getLast?_cons_of_ne_nil hne]
  intro hlast
  have halpha := h.isAlpha '-' (List.mem_of_getLast? hlast)
  revert halpha
  decide

/-- **Identity texts are read in one way only.** -/
theorem identityText_inj (hlabel : IsLabel label) (hlabel' : IsLabel label') (hnow : now.IsValid) (hnow' : now'.IsValid)
    (h : identityText id label now = identityText id' label' now') : id = id' ∧ label = label' ∧ now = now' := by
  have hlist := congrArg String.toList h
  rw [toList_identityText, toList_identityText] at hlist
  obtain ⟨hstem, rfl⟩ := Instant.append_text_inj (hlabel.getLast?_ne _) (hlabel'.getLast?_ne _) hnow hnow' hlist
  obtain ⟨hid, -, hlabels⟩ := append_cons_inj_of_forall hlabel.isAlpha hlabel'.isAlpha (by decide) (by decide) hstem
  exact ⟨String.toList_inj.mp hid, String.toList_inj.mp hlabels, rfl⟩

end Identities

/-! ## Identifiers -/

section Identifiers

variable {d d' d₁ : Disk} {file file' : Path} {text text' label label' key : String} {now now' : Instant}

/-- The digest that `machineHash` makes of the text in the file of the identity. -/
def keyOf (text label : String) (now : Instant) : String :=
  Digest.hex (Digest.sha256 (Text.encode (identityText (Text.trimText text) label now)))

/-- An identifier is made of every identity that is not blank: it is the digest of the text that the identity, the label
and the instant make up, and the disk is only read. -/
theorem machineHash_eq_ok_iff :
    runFrom (machineHash file label now) d = (.ok key, d₁) ↔
      d₁ = d ∧ ∃ text, d.readText file = .ok text ∧ (Text.trimText text).isEmpty = false ∧ key = keyOf text label now := by
  constructor
  · intro hrun
    -- the run is taken apart into the question for the text and the check that something is left of it
    obtain ⟨id, d₂, hread, hreturn⟩ := exists_of_runFrom_bind hrun
    obtain ⟨text, d₃, hask, hrest⟩ := exists_of_runFrom_bind hread
    obtain ⟨htext, rfl⟩ := runFrom_ask_eq_ok.mp (runFrom_during_eq_ok.mp hask)
    dsimp only at hrest
    split at hrest
    · cases hrest
    · next hblank =>
      cases hrest
      cases hreturn
      exact ⟨rfl, text, htext, by simpa using hblank, rfl⟩
  · rintro ⟨rfl, text, htext, hblank, rfl⟩
    -- and put together again
    have hask : runFrom (Action.ask (·.readText file)) d₁ = (.ok text, d₁) := runFrom_ask_eq_ok.mpr ⟨htext, rfl⟩
    have hread : runFrom (readMachineId file) d₁ = (.ok (Text.trimText text), d₁) := by
      rw [readMachineId, runFrom_bind_ok (runFrom_during_eq_ok.mpr hask)]
      simp [hblank]
    rw [machineHash, runFrom_bind_ok hread]
    rfl

/-- The bytes of which an identifier is the digest. -/
def digested (text label : String) (now : Instant) : List UInt8 :=
  Text.encode (identityText (Text.trimText text) label now)

/-- **Identifiers are kept apart.** Each is the digest of some bytes, and the bytes of two identifiers are the same only if
identity, label and instant are. So for two labels or two instants the identifiers are the same only if the bytes of the one
and of the other are a collision. -/
theorem machineHash_apart (hread : d.readText file = .ok text) (hread' : d'.readText file' = .ok text')
    (hblank : (Text.trimText text).isEmpty = false) (hblank' : (Text.trimText text').isEmpty = false)
    (hlabel : IsLabel label) (hlabel' : IsLabel label') (hnow : now.IsValid) (hnow' : now'.IsValid) :
    runFrom (machineHash file label now) d = (.ok (Digest.hex (Digest.sha256 (digested text label now))), d) ∧
      runFrom (machineHash file' label' now') d' =
        (.ok (Digest.hex (Digest.sha256 (digested text' label' now'))), d') ∧
      (digested text label now = digested text' label' now' →
        Text.trimText text = Text.trimText text' ∧ label = label' ∧ now = now') ∧
      ((runFrom (machineHash file label now) d).1 = (runFrom (machineHash file' label' now') d').1 →
        label ≠ label' ∨ now ≠ now' → Digest.Collide (digested text label now) (digested text' label' now')) := by
  have hrun : runFrom (machineHash file label now) d = (.ok (Digest.hex (Digest.sha256 (digested text label now))), d) :=
    machineHash_eq_ok_iff.mpr ⟨rfl, text, hread, hblank, rfl⟩
  have hrun' : runFrom (machineHash file' label' now') d' =
      (.ok (Digest.hex (Digest.sha256 (digested text' label' now'))), d') :=
    machineHash_eq_ok_iff.mpr ⟨rfl, text', hread', hblank', rfl⟩
  have hinj : digested text label now = digested text' label' now' →
      Text.trimText text = Text.trimText text' ∧ label = label' ∧ now = now' :=
    fun h => identityText_inj hlabel hlabel' hnow hnow' (Text.encode_inj h)
  -- two runs that give the same are a collision if their texts differ, and they do
  refine ⟨hrun, hrun', hinj, fun hkeys hdiffer => ⟨fun hsame => ?_, ?_⟩⟩
  · obtain ⟨-, hlabels, hnows⟩ := hinj hsame
    exact hdiffer.elim (· hlabels) (· hnows)
  · rw [hrun, hrun'] at hkeys
    exact Digest.hex_inj (Except.ok.inj hkeys)

/-- A machine whose identity ends like the text of an identifier. -/
def borrowedId : String := " m-vault--0001-01-01T00:00:00+00:00\n"

def borrowedDisk : Disk where
  workingDirectory := []
  objects := [([], .directory 0o755), ([Text.encode "id"], .file 0o644 (Text.encode borrowedId)),
    ([Text.encode "other"], .file 0o644 (Text.encode "m"))]

/-- An instant of the year before the year 0 and a leap second: the texts differ although the identity is the same, and
so the identifiers differ or the digest has a collision. -/
theorem machineHash_apart_borrowedId :
    (borrowedDisk.readText (.ofText "/id") = .ok borrowedId ∧ borrowedDisk.readText (.ofText "/other") = .ok "m" ∧
      (Text.trimText borrowedId).isEmpty = false ∧ (Text.trimText "m").isEmpty = false ∧
      IsLabel "token" ∧ IsLabel "vault" ∧
      (⟨-62198755200, 0⟩ : Instant).IsValid ∧ (⟨1483228799, 1500000000⟩ : Instant).IsValid) ∧
    digested borrowedId "token" ⟨-62198755200, 0⟩ ≠ digested "m" "vault" ⟨1483228799, 1500000000⟩ ∧
      ((runFrom (machineHash (.ofText "/id") "token" ⟨-62198755200, 0⟩) borrowedDisk).1 =
        (runFrom (machineHash (.ofText "/other") "vault" ⟨1483228799, 1500000000⟩) borrowedDisk).1 →
          Digest.Collide (digested borrowedId "token" ⟨-62198755200, 0⟩)
            (digested "m" "vault" ⟨1483228799, 1500000000⟩)) := by
  have hread : borrowedDisk.readText (.ofText "/id") = .ok borrowedId := by decide +kernel
  have hread' : borrowedDisk.readText (.ofText "/other") = .ok "m" := by decide +kernel
  have hblank : (Text.trimText borrowedId).isEmpty = false := by decide
  have hblank' : (Text.trimText "m").isEmpty = false := by decide
  have htoken : IsLabel "token" := by decide
  have hvault : IsLabel "vault" := by decide
  have hyear : (⟨-62198755200, 0⟩ : Instant).IsValid := by decide
  have hleap : (⟨1483228799, 1500000000⟩ : Instant).IsValid := by decide
  have hdiffer : "token" ≠ "vault" := by decide
  obtain ⟨-, -, hinj, hcollide⟩ := machineHash_apart hread hread' hblank hblank' htoken hvault hyear hleap
  exact ⟨⟨hread, hread', hblank, hblank', htoken, hvault, hyear, hleap⟩, fun h => hdiffer (hinj h).2.1,
    fun h => hcollide h (.inl hdiffer)⟩

end Identifiers

end Host

end Bootstrap
