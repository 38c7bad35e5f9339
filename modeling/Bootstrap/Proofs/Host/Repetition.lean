import Bootstrap.Proofs.Disk.Presence
import Bootstrap.Proofs.Host.Additions
import Bootstrap.Proofs.Host.Identity
import Bootstrap.Proofs.Json.RoundTrip
import Mathlib.Data.List.Forall2

/-!
# A second install changes nothing

Behind an install that succeeded every artifact stands at its path, be it that the install made it or that it was there.
A later install looks at the path first, finds something and keeps it: `Host.install_again`. What it tells the operator
is read from the settings that the first install wrote, and these are read back as they were:
`Host.FetchSettings.ofJson?_sample`.

The two installs go through the same steps, `Host.steps`. `Host.Repeats` says of one step and its repetition that they
fit together, and a list of such steps fits together as a whole: `Host.Repeats.foldlM`.
-/

namespace Bootstrap.Host

open Effect Bootstrap.Action Disk

/-! ## Settings are read back -/

section Settings

variable {identifier token monitor keyFile : String}

/-- New settings contain the identifier that they were made with. -/
@[simp] theorem FetchSettings.identifier?_sample :
    (sample identifier token monitor keyFile).identifier? = some identifier := by
  rw [identifier?, sample, List.lookup_cons_self]

@[simp] theorem FetchSettings.token?_sample : (sample identifier token monitor keyFile).token? = some token := by
  have hne : (tokenHeader == identifierHeader) = false := by decide
  rw [token?, sample, List.lookup_cons, hne, List.lookup_cons_self]

/-- A header whose name comes behind all others is put at the end. -/
theorem Headers.insert_of_lt {name value : String} {hs : Headers} (h : ∀ other ∈ hs, other.1 < name) :
    Headers.insert name value hs = hs ++ [(name, value)] := by
  induction hs with
  | nil => rfl
  | cons other hs ih =>
      obtain ⟨n, v⟩ := other
      have hn : n < name := h (n, v) (by simp)
      rw [insert, if_neg (String.lt_asymm hn), if_neg (fun heq => absurd (heq ▸ hn) (String.lt_irrefl _)),
        ih fun o ho => h o (List.mem_cons_of_mem _ ho), List.cons_append]

/-- Headers in the order of their names are read as they stand: each one is inserted at its place, which is behind all
that were read before. -/
theorem headersOf?_ofFields (hs : Headers) (h : (hs.map (·.1)).Pairwise (· < ·)) :
    FetchSettings.headersOf? (.ofFields (hs.map fun h => (h.1, .ofText h.2))) = some hs := by
  simp only [Json.Value.ofFields, FetchSettings.headersOf?, List.map_map]
  induction hs using List.reverseRecOn with
  | nil => rfl
  | append_singleton hs last ih =>
      -- the last header is read last
      rw [List.map_append] at h
      obtain ⟨hfront, -, hlast⟩ := List.pairwise_append.mp h
      rw [List.map_append, List.foldlM_append, ih hfront]
      simp only [Option.bind_eq_bind, Option.bind_some, List.map_cons, List.map_nil, List.foldlM_cons,
        List.foldlM_nil, Function.comp_apply, String.ofList_toList, FetchSettings.textOf?, Json.Value.ofText,
        Option.pure_def]
      rw [Headers.insert_of_lt fun o ho => hlast o.1 (List.mem_map_of_mem ho) last.1 (by simp)]

/-- New settings are read back from their own document. The headers are kept by name, in order, so the order in which
they were written has to be that of the names. -/
theorem FetchSettings.ofJson?_sample :
    ofJson? (sample identifier token monitor keyFile).toJson = some (sample identifier token monitor keyFile) := by
  have hnames : [identifierHeader, tokenHeader, "Content-type", "Monitor-Name"].Pairwise (· < ·) := by decide
  have hheaders := headersOf?_ofFields (sample identifier token monitor keyFile).headers hnames
  have htext : ∀ s : String, textOf? (.ofText s) = some s := fun s => by simp [textOf?, Json.Value.ofText]
  have h3 : wordOf? (.ofNat 3) = some 3 := by decide
  have h10 : wordOf? (.ofNat 10) = some 10 := by decide
  rw [toJson, Json.Value.ofFields, ofJson?, if_pos (by simp)]
  -- every name stands once
  simp only [sample, List.map_cons, List.map_nil] at hheaders
  simp [field?, ofValues?, htext, sample, h3, h10, hheaders]

/-- The document of the sample settings is one that the reader of documents accepts. -/
theorem isSound_toJson_sample : (FetchSettings.sample identifier token monitor keyFile).toJson.IsSound := by
  refine Json.isSound_ofFields ?_
  simp only [List.forall_mem_cons, List.not_mem_nil, false_implies, implies_true, and_true]
  have h3 : Json.IsWhole (toString 3).toList := by decide
  have h10 : Json.IsWhole (toString 10).toList := by decide
  refine ⟨Json.isSound_ofFields fun f hf => ?_, .text _, .number h3, .number h10, .text _⟩
  obtain ⟨h, -, rfl⟩ := List.mem_map.mp hf
  exact .text _

/-- Settings are read wherever their file holds them: the file is text, the text is a value, and the value has the
fields of settings. -/
theorem load_eq_ok_iff {p : Path} {settings : FetchSettings} {d d' : Disk} :
    runFrom (FetchSettings.load p) d = (.ok settings, d') ↔
      d' = d ∧ ∃ s, d.readText p = .ok s ∧ (Json.read? s).bind FetchSettings.ofJson? = some settings := by
  constructor
  · intro h
    obtain ⟨s, d₁, hask, hrest⟩ := exists_of_runFrom_bind h
    obtain ⟨hread, rfl⟩ := runFrom_ask_eq_ok.mp (runFrom_during_eq_ok.mp hask)
    split at hrest
    · next hsettings =>
      cases hrest
      exact ⟨rfl, s, hread, hsettings⟩
    · cases hrest
  · rintro ⟨rfl, s, hread, hsettings⟩
    have hask : runFrom (Action.ask (·.readText p)) d' = (.ok s, d') := runFrom_ask_eq_ok.mpr ⟨hread, rfl⟩
    rw [FetchSettings.load, runFrom_bind_ok (runFrom_during_eq_ok.mpr hask), hsettings]
    rfl

/-- Settings that can be loaded load the same when the disk has grown. -/
theorem load_of_grows {p : Path} {settings : FetchSettings} {d d₁ d' : Disk} (h : d₁.Grows d')
    (hload : runFrom (FetchSettings.load p) d = (.ok settings, d₁)) :
    runFrom (FetchSettings.load p) d' = (.ok settings, d') := by
  obtain ⟨rfl, s, hread, hsettings⟩ := load_eq_ok_iff.mp hload
  exact load_eq_ok_iff.mpr ⟨rfl, s, h.readText hread, hsettings⟩

/-- The settings of a new install are loaded from the file that it wrote. -/
theorem load_of_readFile {p : Path} {d : Disk} (h : d.readFile p =
      .ok (Text.encode (FetchSettings.sample identifier token monitor keyFile).toJson.document)) :
    runFrom (FetchSettings.load p) d = (.ok (FetchSettings.sample identifier token monitor keyFile), d) := by
  refine load_eq_ok_iff.mpr ⟨rfl, (FetchSettings.sample identifier token monitor keyFile).toJson.document, ?_, ?_⟩
  · simp [readText, h, bind, Except.bind]
  · rw [Json.read?_document isSound_toJson_sample]
    exact FetchSettings.ofJson?_sample

end Settings

/-! ## Steps and their repetitions -/

/-- The report of a repeated install: the first one's places and values, nothing made, and everything kept that the
first one made or kept. -/
inductive RepeatedAs (h : Host) : Report → Report → Prop where
  | mk (identifier token : String) (created kept kept' : List Path) (hkept : ∀ p ∈ created ++ kept, p ∈ kept') :
      RepeatedAs h
        { Report.start h with identifier := identifier, token := token, created := created, kept := kept }
        { Report.start h with identifier := identifier, token := token, kept := kept' }

/-- What the first install noted in one way or the other, the second one notes as kept. -/
theorem RepeatedAs.record {h : Host} {r r' : Report} (hr : RepeatedAs h r r') (p : Path) (made : Bool) :
    RepeatedAs h (r.record p made) (r'.record p false) := by
  obtain ⟨identifier, token, created, kept, kept', hkept⟩ := hr
  have hnew : ∀ q ∈ (p :: (created ++ kept)), q ∈ kept' ++ [p] := by
    intro q hq
    rcases List.mem_cons.mp hq with rfl | hq
    · simp
    · simp [hkept q hq]
  cases made with
  | true => exact .mk identifier token (created ++ [p]) kept _ fun q hq => hnew q (by simp at hq ⊢; tauto)
  | false => exact .mk identifier token created (kept ++ [p]) _ fun q hq => hnew q (by simp at hq ⊢; tauto)

/-- Identifier and token may differ between the two installs, as far as these lemmas go. -/
theorem RepeatedAs.withValues {h : Host} {r r' : Report} (hr : RepeatedAs h r r') (identifier token : String) :
    RepeatedAs h { r with identifier := identifier, token := token }
      { r' with identifier := identifier, token := token } := by
  obtain ⟨_, _, created, kept, kept', hkept⟩ := hr
  exact .mk identifier token created kept kept' hkept

/-- `again` repeats `first`: where `first` succeeds on a disk that has at least what `d₀` has, `again` succeeds on every
disk that has at least what `first` left, changes nothing and reports accordingly. -/
structure Repeats {σ : Type} (disk : σ → Disk) (h : Host) (d₀ : Disk) (first again : Report → Effect σ Report) :
    Prop where
  grows : ∀ (d : Disk) r, Keeps (fun s => d.Grows (disk s)) (first r)
  again : ∀ {r r₁ r' s s₁ s'}, d₀.Grows (disk s) → RepeatedAs h r r' → runFrom (first r) s = (.ok r₁, s₁) →
    d₀.Grows (disk s') → (disk s₁).Grows (disk s') →
      ∃ r₁', runFrom (again r') s' = (.ok r₁', s') ∧ RepeatedAs h r₁ r₁'

namespace Repeats

variable {σ : Type} {disk : σ → Disk} {h : Host} {d₀ : Disk} {f g f' g' : Report → Effect σ Report}

/-- A step that does nothing is repeated by one that does nothing. -/
theorem pure : Repeats disk h d₀ (fun r => pure r) (fun r => pure r) where
  grows _ _ _ hs := hs
  again _ hr hrun _ _ := by
    cases hrun
    exact ⟨_, rfl, hr⟩

/-- Two steps, one behind the other. The second one adds to what the first one left, so it does not undo what the
repetition of the first one needs. -/
theorem comp (hf : Repeats disk h d₀ f f') (hg : Repeats disk h d₀ g g') :
    Repeats disk h d₀ (fun r => f r >>= g) (fun r => f' r >>= g') where
  grows d r := (hf.grows d r).bind fun r => hg.grows d r
  again {r r₁ r' s s₁ s'} hd hr hrun hd' hgrows := by
    obtain ⟨r₂, s₂, hfirst, hsecond⟩ := exists_of_runFrom_bind hrun
    have hd₂ : d₀.Grows (disk s₂) := (hf.grows d₀ r).of_runFrom hfirst hd
    have hadded : (disk s₂).Grows (disk s₁) := (hg.grows (disk s₂) r₂).of_runFrom hsecond (.refl _)
    obtain ⟨r₂', hfirst', hr₂⟩ := hf.again hd hr hfirst hd' (hadded.trans hgrows)
    obtain ⟨r₁', hsecond', hr₁⟩ := hg.again hd₂ hr₂ hsecond hd' hgrows
    exact ⟨r₁', by rw [runFrom_bind_ok hfirst', hsecond'], hr₁⟩

/-- Two lists of steps of which each repeats the one at the same place. Induction on the lists. -/
theorem foldlM {α β : Type} {xs : List α} {ys : List β} {step : Report → α → Effect σ Report}
    {step' : Report → β → Effect σ Report}
    (hsteps : List.Forall₂ (fun x y => Repeats disk h d₀ (step · x) (step' · y)) xs ys) :
    Repeats disk h d₀ (xs.foldlM step) (ys.foldlM step') := by
  induction hsteps with
  | nil => exact pure
  | cons hstep _ ih =>
      simp only [List.foldlM_cons]
      exact hstep.comp ih

/-- Steps that agree on the reports of the two installs. -/
theorem congr (hf : Repeats disk h d₀ f f') (hgrows : ∀ (d : Disk) r, Keeps (fun s => d.Grows (disk s)) (g r))
    (heq : ∀ r r', RepeatedAs h r r' → g r = f r ∧ g' r' = f' r') : Repeats disk h d₀ g g' where
  grows := hgrows
  again hd hr hrun hd' hle := by
    rw [(heq _ _ hr).1] at hrun
    rw [(heq _ _ hr).2]
    exact hf.again hd hr hrun hd' hle

/-- Steps on the disk alone are repeated as steps of the program. -/
theorem onDisk {x x' : Report → Action Report} (hx : Repeats (fun d => d) h d₀ x x') :
    Repeats World.disk h d₀ (fun r => Program.onDisk (x r)) (fun r => Program.onDisk (x' r)) where
  grows d r := (hx.grows d r).onDisk
  again {r r₁ r' w w₁ w'} hd hr hrun hd' hgrows := by
    obtain ⟨r₁', hrun', hr₁⟩ := hx.again hd hr (runFrom_onDisk_eq_ok.mp hrun).1 hd' hgrows
    exact ⟨r₁', runFrom_onDisk_eq_ok.mpr ⟨hrun', rfl⟩, hr₁⟩

end Repeats

/-! ## Artifacts -/

section Artifacts

variable {h : Host} {d₀ d d₁ : Disk} {now : Instant} {p : Path} {content : List UInt8} {mode : Nat} {r r₁ : Report}

/-- Right above a name in the configuration directory is that directory, wherever home is. -/
theorem parent?_joinText_configDirectory {name : String} (hname : Path.IsPlain (Text.encode name)) :
    (h.configDirectory.joinText name).parent? = some h.configDirectory :=
  Path.parent?_joinText_joinText (Path.endsInName_joinText _ (by decide)) (by decide) hname

/-- Installing a file is writing it and recording what came of it. -/
theorem installFile_eq_ok (hrun : runFrom (installFile p content mode r) d = (.ok r₁, d₁)) :
    ∃ made, runFrom (writeNewFile p content mode) d = (.ok made, d₁) ∧ r₁ = r.record p made := by
  obtain ⟨made, d₂, hwrite, hreturn⟩ := exists_of_runFrom_bind hrun
  cases hreturn
  exact ⟨made, hwrite, rfl⟩

/-- A file stands at its path afterwards, so a second attempt keeps it. -/
theorem repeats_installFile (p : Report → Path)
    (hp : ∀ {r r'}, RepeatedAs h r r' → (p r).EndsInName ∧ p r' = p r) :
    Repeats (fun d => d) h d₀ (fun r => installFile (p r) content mode r)
      (fun r => installFile (p r) content mode r) where
  grows d r := keeps_installFile (allowsNew_grows d)
  again {r r₁ r' d d₁ d'} _ hr hrun _ hgrows := by
    obtain ⟨hname, hsame⟩ := hp hr
    obtain ⟨made, hwrite, rfl⟩ := installFile_eq_ok hrun
    have htaken : d'.IsTaken (p r) := hgrows.isTaken (isTaken_of_writeNewFile hname hwrite)
    refine ⟨r'.record (p r) false, ?_, hr.record _ _⟩
    rw [hsame, installFile, runFrom_bind_ok (writeNewFile_of_isTaken hname htaken)]
    rfl

/-- Where the path is looked at first, the second install finds what the first one found or made. So it never gets to
what the host or the time would change. -/
theorem again_of_occupied {r' : Report} {d' : Disk} {rest rest' : Action Report} (hr : RepeatedAs h r r')
    (hrun : runFrom (do
      if (← get).occupied p then return r.record p false
      rest) d = (.ok r₁, d₁))
    (hrest : runFrom rest d = (.ok r₁, d₁) → ∃ made, r₁ = r.record p made ∧ d₁.occupied p = true)
    (hgrows : d₁.Grows d') :
    ∃ r₁', runFrom (do
      if (← get).occupied p then return r'.record p false
      rest') d' = (.ok r₁', d') ∧ RepeatedAs h r₁ r₁' := by
  have hfirst : ∃ made, r₁ = r.record p made ∧ d₁.occupied p = true := by
    rw [runFrom_get_bind] at hrun
    split at hrun
    · next hthere =>
      cases hrun
      exact ⟨false, rfl, hthere⟩
    · exact hrest hrun
  obtain ⟨made, rfl, hthere⟩ := hfirst
  refine ⟨r'.record p false, ?_, hr.record _ _⟩
  rw [runFrom_get_bind, if_pos (hgrows.occupied hthere)]
  rfl

/-- A key stands at its path afterwards, whoever made it; a second install does not even ask for the machine. -/
theorem repeats_installVaultKey {h' : Host} {now' : Instant} :
    Repeats (fun d => d) h d₀ (installVaultKey h now) (installVaultKey h' now') where
  grows d r := keeps_installVaultKey (allowsNew_grows d)
  again {r r₁ r' d d₁ d'} _ hr hrun _ hgrows := by
    have hplaces : r.vaultKey = h.configDirectory.joinText ".vault-key" ∧ r'.vaultKey = r.vaultKey := by
      obtain ⟨⟩ := hr
      exact ⟨rfl, rfl⟩
    have hname : r.vaultKey.EndsInName := hplaces.1 ▸ Path.endsInName_joinText _ (by decide)
    rw [installVaultKey, hplaces.2]
    refine again_of_occupied hr hrun (fun hrest => ?_) hgrows
    obtain ⟨key, d₂, -, hmake⟩ := exists_of_runFrom_bind hrest
    obtain ⟨made, hwrite, rfl⟩ := installFile_eq_ok (runFrom_during_eq_ok.mp hmake)
    exact ⟨made, rfl, (isTaken_of_writeNewFile hname hwrite).occupied⟩

/-- A link that was made or found is found again, be it that it leads nowhere. -/
theorem repeats_installLink {helper : Path} {name : String} (hplain : Path.IsPlain (Text.encode name)) :
    Repeats (fun d => d) h d₀ (fun r => installLink helper (r.binDirectory.joinText name) r)
      (fun r => installLink helper (r.binDirectory.joinText name) r) where
  grows d r := keeps_installLink (allowsNew_grows d)
  again {r r₁ r' d d₁ d'} _ hr hrun _ hgrows := by
    have hsame : r'.binDirectory = r.binDirectory := by
      obtain ⟨⟩ := hr
      rfl
    rw [hsame]
    refine again_of_occupied hr hrun (fun hrest => ?_) hgrows
    obtain ⟨⟨⟩, d₂, hmake, hreturn⟩ := exists_of_runFrom_bind hrest
    cases hreturn
    exact ⟨true, rfl, occupied_of_createLink (Path.endsInName_joinText _ hplain) (runFrom_during_eq_ok.mp hmake)⟩

/-- The helper and its links. -/
theorem repeats_installHelper : Repeats (fun d => d) h d₀ (installHelper content) (installHelper content) := by
  have hfile : Repeats (fun d => d) h d₀ (installFile (h.binDirectory.joinText helperName) content 0o750)
      (installFile (h.binDirectory.joinText helperName) content 0o750) :=
    repeats_installFile _ fun _ => ⟨Path.endsInName_joinText _ (by decide), rfl⟩
  have hlinks : List.Forall₂ (fun name name' => Repeats (fun d => d) h d₀
      (fun r => installLink (h.binDirectory.joinText helperName) (r.binDirectory.joinText name) r)
      (fun r => installLink (h.binDirectory.joinText helperName) (r.binDirectory.joinText name') r))
      helperLinks helperLinks := by
    refine List.forall₂_same.mpr fun name hname => repeats_installLink ?_
    revert name hname
    decide
  -- the links follow the file, each in the report that the one before it left
  refine (hfile.comp (.foldlM hlinks)).congr (fun d r => keeps_installHelper (allowsNew_grows d)) fun r r' hr => ?_
  obtain ⟨⟩ := hr
  exact ⟨rfl, rfl⟩

/-- A script that can be read is copied; the copy stands at its path afterwards, and the second install does not read
the source again. -/
theorem repeats_installCopy {script : Path} (hread : d₀.readFile script = .ok content) :
    Repeats (fun d => d) h d₀ (fun r => installCopy script r.dynamicInventory mode r)
      (fun r => installCopy script r.dynamicInventory mode r) where
  grows d r := keeps_installCopy (allowsNew_grows d)
  again {r r₁ r' d d₁ d'} hd hr hrun hd' hgrows := by
    have hcopy : ∀ (d : Disk) r, d₀.Grows d → runFrom (installCopy script r.dynamicInventory mode r) d =
        runFrom (installFile r.dynamicInventory content mode r) d := by
      intro d r hd
      rw [installCopy, runFrom_get_bind, hd.readFile hread]
    rw [hcopy d r hd] at hrun
    rw [hcopy d' r' hd']
    refine (repeats_installFile (fun r => r.dynamicInventory) fun {r r'} hr => ?_).again hd hr hrun hd' hgrows
    obtain ⟨⟩ := hr
    have hplain : Path.IsPlain (Text.encode "dynamic-inventory.py") := by decide
    exact ⟨Path.endsInName_joinText h.binDirectory hplain, rfl⟩

/-- Where no inventory stands yet, a seed that can be read is announced and then copied. -/
theorem installSeed_of_readFile {seed : Path} {line : String} {w : World}
    (hfree : w.disk.occupied (r.configDirectory.joinText secretsName) = false)
    (hread : w.disk.readFile seed = .ok content)
    (hline : s!"Copying inventory '{seed.display}' to '{(r.configDirectory.joinText secretsName).display}'" = line)
    (hcopy : runFrom (installFile (r.configDirectory.joinText secretsName) content 0o600 r) w.disk = (.ok r₁, d₁)) :
    runFrom (installSeed seed r) w = (.ok r₁, { w with disk := d₁, printed := w.printed ++ line ++ "\n" }) := by
  have hprint : runFrom (Program.print line) w = (.ok (), { w with printed := w.printed ++ line ++ "\n" }) := rfl
  rw [installSeed, runFrom_look_bind, if_neg (ne_of_eq_of_ne hfree Bool.false_ne_true), runFrom_look_bind, hread]
  dsimp only
  rw [hline, runFrom_bind_ok hprint]
  exact runFrom_onDisk_eq_ok.mpr ⟨hcopy, rfl⟩

/-- An inventory that can be read is copied, with an announcement; the copy stands at its path afterwards, and nothing
is announced any more. -/
theorem repeats_installSeed {seed : Path} (hread : d₀.readFile seed = .ok content) :
    Repeats World.disk h d₀ (installSeed seed) (installSeed seed) where
  grows d r := keeps_installSeed (allowsNew_grows d) (.print ·) .onDisk
  again {r r₁ r' w w₁ w'} hd hr hrun hd' hgrows := by
    have hsame : r'.configDirectory = r.configDirectory := by
      obtain ⟨⟩ := hr
      rfl
    set secrets := r.configDirectory.joinText secretsName with hsecrets
    have hname : secrets.EndsInName := Path.endsInName_joinText _ (by decide)
    -- behind the first install an inventory is there, found or copied
    have hfirst : ∃ made, r₁ = r.record secrets made ∧ w₁.disk.occupied secrets = true := by
      rw [installSeed, runFrom_look_bind] at hrun
      split at hrun
      · next hthere =>
        cases hrun
        exact ⟨false, rfl, hthere⟩
      · rw [runFrom_look_bind, hd.readFile hread] at hrun
        obtain ⟨⟨⟩, w₂, -, hcopy⟩ := exists_of_runFrom_bind hrun
        obtain ⟨made, hwrite, rfl⟩ := installFile_eq_ok (runFrom_onDisk_eq_ok.mp hcopy).1
        exact ⟨made, rfl, (isTaken_of_writeNewFile hname hwrite).occupied⟩
    obtain ⟨made, rfl, hthere⟩ := hfirst
    refine ⟨r'.record secrets false, ?_, hr.record _ _⟩
    -- so the second one finds it and does not even look for the seed
    rw [installSeed, hsame, ← hsecrets, runFrom_look_bind, if_pos (hgrows.occupied hthere)]
    rfl

/-- What an install reports is what its settings say afterwards, be it that it wrote them or that they were there. Since
nothing is missing above the file, nothing can come between the look and the attempt to write it. -/
theorem installSettings_eq_ok {monitor : String} (hname : r.inventorySettings.EndsInName)
    (hparent : ∀ q, r.inventorySettings.parent? = some q → q.bytes = [] ∨ d.leadsSomewhere q = true)
    (hrun : runFrom (installSettings h now monitor r) d = (.ok r₁, d₁)) :
    ∃ settings made, d₁.occupied r.inventorySettings = true ∧
      runFrom (FetchSettings.load r.inventorySettings) d₁ = (.ok settings, d₁) ∧
      r₁ = Report.record
        { r with identifier := settings.identifier?.getD "", token := settings.token?.getD "" }
        r.inventorySettings made ∧
      (made = false ∧ d₁ = d ∨ ∃ text, d.readText h.machineId = .ok text ∧
        runFrom (writeNewFile r.inventorySettings (Text.encode (FetchSettings.sample (keyOf text "identifier" now)
          (keyOf text "token" now) monitor r.vaultKey.display).toJson.document) 0o640) d = (.ok made, d₁)) := by
  rw [installSettings, runFrom_get_bind] at hrun
  split at hrun
  · next hthere =>
    obtain ⟨settings, d₂, hload, hreturn⟩ := exists_of_runFrom_bind hrun
    cases hreturn
    obtain ⟨rfl, -⟩ := load_eq_ok_iff.mp hload
    exact ⟨settings, false, hthere, hload, rfl, .inl ⟨rfl, rfl⟩⟩
  · next hfree =>
    obtain ⟨identifier, d₂, hidentifier, hrest⟩ := exists_of_runFrom_bind hrun
    obtain ⟨rfl, text, htext, -, rfl⟩ := machineHash_eq_ok_iff.mp hidentifier
    obtain ⟨token, d₃, htoken, hmake⟩ := exists_of_runFrom_bind hrest
    obtain ⟨rfl, text', htext', -, rfl⟩ := machineHash_eq_ok_iff.mp htoken
    -- the identity is read twice from one disk
    cases htext.symm.trans htext'
    obtain ⟨made, hwrite, rfl⟩ := installFile_eq_ok hmake
    obtain rfl := made_of_writeNewFile hname (by simpa using hfree) hparent hwrite
    refine ⟨_, true, (isTaken_of_writeNewFile hname hwrite).occupied,
      load_of_readFile (readFile_of_writeNewFile hwrite), ?_, .inr ⟨text, htext, hwrite⟩⟩
    rw [FetchSettings.identifier?_sample, FetchSettings.token?_sample]
    rfl

/-- New settings are read back as they were written, and settings that were there are read once more. Either way the
second install reports the identifier and the token of the first one. -/
theorem repeats_installSettings {h' : Host} {now' : Instant} {monitor : String}
    (hdirectory : d₀.isDirectory h.configDirectory = true) :
    Repeats (fun d => d) h d₀ (installSettings h now monitor) (installSettings h' now' monitor) where
  grows d r := keeps_installSettings (allowsNew_grows d)
  again {r r₁ r' d d₁ d'} hd hr hrun _ hgrows := by
    have hplaces : r.inventorySettings = h.configDirectory.joinText "inventory-config.json" ∧
        r'.inventorySettings = r.inventorySettings := by
      obtain ⟨⟩ := hr
      exact ⟨rfl, rfl⟩
    have hname : r.inventorySettings.EndsInName := hplaces.1 ▸ Path.endsInName_joinText _ (by decide)
    have hparent : ∀ q, r.inventorySettings.parent? = some q → q.bytes = [] ∨ d.leadsSomewhere q = true := by
      intro q hq
      rw [hplaces.1, parent?_joinText_configDirectory (by decide)] at hq
      cases hq
      exact .inr (leadsSomewhere_of_isDirectory (hd.isDirectory hdirectory))
    -- after the first run settings stand there, be they its own or older ones, and they can be read
    obtain ⟨settings, made, hthere, hload, rfl, -⟩ := installSettings_eq_ok hname hparent hrun
    refine ⟨_, ?_, (hr.withValues _ _).record _ made⟩
    -- so the second run loads them, and neither the host nor the time matters
    rw [installSettings, runFrom_get_bind, hplaces.2, if_pos (Grows.occupied hgrows hthere),
      runFrom_bind_ok (load_of_grows hgrows hload)]
    rfl

end Artifacts

/-! ## The whole install -/

section Install

variable {h h' : Host} {now : Instant} {sources : Sources} {d d' d₀ : Disk}

/-- Both directories are there behind the first step of an install. -/
theorem isDirectory_of_runFrom_makeDirectories (hrun : runFrom (makeDirectories h) d = (.ok (), d')) :
    d'.isDirectory h.configDirectory = true ∧ d'.isDirectory h.binDirectory = true := by
  obtain ⟨_, d₁, hfirst, hrest⟩ := exists_of_runFrom_bind hrun
  obtain ⟨_, d₂, hsecond, hreturn⟩ := exists_of_runFrom_bind hrest
  cases hreturn
  rw [runFrom_during_eq_ok] at hfirst hsecond
  have hthere := isDirectory_of_createDirectoryIfMissing hfirst
  -- the second directory takes nothing away from the first
  have hstable : Keeps (fun d => d.isDirectory h.configDirectory = true)
      (createDirectoryIfMissing h.binDirectory binDirectoryMode) :=
    (IsStable.isDirectory h.configDirectory).createDirectoryIfMissing
  exact ⟨hstable.of_runFrom hsecond hthere, isDirectory_of_createDirectoryIfMissing hsecond⟩

/-- Where they are there, the first step does nothing. -/
theorem makeDirectories_of_isDirectory (hconfig : d.isDirectory h.configDirectory = true)
    (hbin : d.isDirectory h.binDirectory = true) : runFrom (makeDirectories h) d = (.ok (), d) := by
  rw [makeDirectories, runFrom_bind_ok (runFrom_during_eq_ok.mpr (createDirectoryIfMissing_of_isDirectory hconfig)),
    runFrom_bind_ok (runFrom_during_eq_ok.mpr (createDirectoryIfMissing_of_isDirectory hbin))]
  rfl

/-- The steps of an install behind the directories. -/
def steps (h : Host) (now : Instant) (sources : Sources) : List (Report → Program Report) :=
  [fun r => Program.onDisk (installVaultKey h now r),
    fun r => Program.onDisk (installHelper sources.helper r),
    fun r => Program.onDisk (installFile (h.configDirectory.joinText "ansible.pex") sources.runner 0o550 r)] ++
  sources.runnerConfig.toList.map (fun text r =>
    Program.onDisk (installFile (h.home.joinText ".ansible.cfg") (Text.encode text) 0o640 r)) ++
  sources.dynamicInventory.toList.map (fun script r =>
    Program.onDisk (installCopy script r.dynamicInventory 0o550 r)) ++
  sources.seedInventory.toList.map installSeed ++
  [fun r => Program.onDisk (installSettings h now sources.monitor r),
    fun r => Program.onDisk (installFile (h.configDirectory.joinText "connect-py.json")
      (Text.encode (connectSample sources.monitor).document) 0o640 r)]

/-- An install is its first step and a loop over the others. The program text has a branch for each artifact that may be
missing; `toList` makes a list of none or one step of each. -/
theorem install_eq : install h now sources = (do
    Program.onDisk (makeDirectories h)
    (steps h now sources).foldlM (fun r step => step r) (Report.start h)) := by
  obtain ⟨runner, helper, runnerConfig, dynamicInventory, seedInventory, monitor⟩ := sources
  cases runnerConfig <;> cases dynamicInventory <;> cases seedInventory <;> simp [install, steps]

/-- A step that is taken or left out in both installs alike. -/
theorem forall₂_toList_map {α β : Type} {R : β → β → Prop} {x? : Option α} {f g : α → β}
    (hfg : ∀ x, x? = some x → R (f x) (g x)) : List.Forall₂ R (x?.toList.map f) (x?.toList.map g) := by
  cases x? with
  | none => exact .nil
  | some x => exact .cons (hfg x rfl) .nil

/-- Every step of an install is repeated by the same step of a later one, at whatever time and whatever became of the
identity of the machine. -/
theorem repeats_steps (now now' : Instant) (hsame : h'.home = h.home)
    (hdirectory : d₀.isDirectory h.configDirectory = true)
    (hscript : ∀ script, sources.dynamicInventory = some script → ∃ content, d₀.readFile script = .ok content)
    (hseed : ∀ seed, sources.seedInventory = some seed → ∃ content, d₀.readFile seed = .ok content) :
    List.Forall₂ (fun first again => Repeats World.disk h d₀ (fun r => first r) (fun r => again r))
      (steps h now sources) (steps h' now' sources) := by
  have hconfig : h'.configDirectory = h.configDirectory := by rw [configDirectory, configDirectory, hsame]
  have hfile : ∀ {p : Path} {content : List UInt8} {mode : Nat}, p.EndsInName → Repeats World.disk h d₀
      (fun r => Program.onDisk (installFile p content mode r))
      (fun r => Program.onDisk (installFile p content mode r)) :=
    fun hname => (repeats_installFile _ fun _ => ⟨hname, rfl⟩).onDisk
  simp only [steps, hconfig, hsame]
  -- in the order of the steps; those that may be left out are left out in both installs
  refine List.rel_append (List.rel_append (List.rel_append (List.rel_append ?_ ?_) ?_) ?_) ?_
  · exact .cons repeats_installVaultKey.onDisk (.cons repeats_installHelper.onDisk
      (.cons (hfile (Path.endsInName_joinText _ (by decide))) .nil))
  · exact forall₂_toList_map fun text _ => hfile (Path.endsInName_joinText _ (by decide))
  · refine forall₂_toList_map fun script hgiven => ?_
    obtain ⟨content, hread⟩ := hscript script hgiven
    exact (repeats_installCopy hread).onDisk
  · refine forall₂_toList_map fun seed hgiven => ?_
    obtain ⟨content, hread⟩ := hseed seed hgiven
    exact repeats_installSeed hread
  · exact .cons (repeats_installSettings hdirectory).onDisk
      (.cons (hfile (Path.endsInName_joinText _ (by decide))) .nil)

/-- **A second install changes nothing.** On a tree with a home directory and with the files that are to be copied, an
install that succeeds is repeated by every later one with the same sources: that one succeeds too, be it that the
identity of the machine cannot be read any more, leaves the world as it is, makes nothing, keeps all that the first one
made or kept, and reports the same identifier and the same token. -/
theorem install_again (h h' : Host) (now now' : Instant) (sources : Sources) (w w₁ w' : World) (r : Report)
    (htree : w.disk.IsTree) (hhome : w.disk.isDirectory h.home = true) (hsame : h'.home = h.home)
    (hscript : ∀ script, sources.dynamicInventory = some script → ∃ content, w.disk.readFile script = .ok content)
    (hseed : ∀ seed, sources.seedInventory = some seed → ∃ content, w.disk.readFile seed = .ok content)
    (hrun : (install h now sources).runOn w = (.ok r, w₁)) (hdisk : w'.disk = w₁.disk) :
    ∃ r', (install h' now' sources).runOn w' = (.ok r', w') ∧ r'.created = [] ∧
      (∀ p ∈ r.created ++ r.kept, p ∈ r'.kept) ∧ r'.identifier = r.identifier ∧ r'.token = r.token := by
  rw [program_runOn_eq, install_eq] at hrun
  obtain ⟨⟨⟩, w₀, hdirectories, hsteps⟩ := exists_of_runFrom_bind hrun
  -- the directories, and what is still there behind them
  have hmade := (runFrom_onDisk_eq_ok.mp hdirectories).1
  obtain ⟨hconfig, hbin⟩ := isDirectory_of_runFrom_makeDirectories hmade
  have hgrows : w.disk.Grows w₀.disk := by
    obtain ⟨base, hleads⟩ := isDirectory_iff.mp hhome
    exact (keeps_makeDirectories_grows.of_runFrom hmade ⟨.refl _, htree, hleads⟩).grows
  -- the steps behind the directories are repeated one by one
  have hrepeats := Repeats.foldlM (repeats_steps now now' hsame hconfig
    (fun script hgiven => (hscript script hgiven).imp fun _ => hgrows.readFile)
    (fun seed hgiven => (hseed seed hgiven).imp fun _ => hgrows.readFile))
  have hadded : w₀.disk.Grows w'.disk := by
    rw [hdisk]
    exact (hrepeats.grows w₀.disk (Report.start h)).of_runFrom hsteps (.refl _)
  have hstart : RepeatedAs h (Report.start h) (Report.start h) := .mk "" "" [] [] [] (by simp)
  obtain ⟨r', hrun', hr⟩ := hrepeats.again (.refl _) hstart hsteps hadded (hdisk ▸ .refl _)
  have hagain : runFrom (makeDirectories h') w'.disk = (.ok (), w'.disk) := by
    refine makeDirectories_of_isDirectory ?_ ?_
    · rw [configDirectory, hsame]
      exact hadded.isDirectory hconfig
    · rw [binDirectory, hsame]
      exact hadded.isDirectory hbin
  refine ⟨r', ?_, ?_⟩
  · have hplaces : Report.start h' = Report.start h := by
      simp only [Report.start, binDirectory, configDirectory, hsame]
    rw [program_runOn_eq, install_eq, runFrom_bind_ok (runFrom_onDisk_eq_ok.mpr ⟨hagain, rfl⟩), hplaces]
    exact hrun'
  · obtain ⟨identifier, token, created, kept, kept', hkept⟩ := hr
    exact ⟨rfl, hkept, rfl, rfl⟩

end Install

/-! ## An operator's host -/

section Equipped

/-- The location with these names. -/
def located (names : List String) : Location := names.map Text.encode

/-- Settings without headers, as an operator may have written them. -/
def plainSettings : String := "[\x7b\x7d, \"\", 0, 0, \"\"]"

/-- A home directory that lacks the runner and the copies. -/
def equippedDisk : Disk where
  workingDirectory := []
  objects := [([], .directory 0o755), (located ["home"], .directory 0o700),
    (located ["home", "seed"], .file 0o644 [3]), (located ["home", "script"], .file 0o644 [4]),
    (located ["home", "bin"], .directory 0o750), (located ["home", "bin", "ansible.sh"], .file 0o750 [2]),
    (located ["home", "bin", "ansible"], .link (.ofText "ansible.sh")),
    (located ["home", "bin", "ansible-playbook"], .link (.ofText "ansible.sh")),
    (located ["home", "bin", "ansible-vault"], .link (.ofText "ansible.sh")),
    (located ["home", "bin", "ansible-config"], .link (.ofText "ansible.sh")),
    (located ["home", "bin", "ansible-inventory"], .link (.ofText "/gone")),
    (located ["home", ".config"], .directory 0o700), (located ["home", ".config", "gascan"], .directory 0o700),
    (located ["home", ".config", "gascan", ".vault-key"], .file 0o400 []),
    (located ["home", ".config", "gascan", "inventory-config.json"], .file 0o640 (Text.encode plainSettings)),
    (located ["home", ".config", "gascan", "connect-py.json"], .file 0o640 [])]

def equippedHost : Host := ⟨.ofText "/home", .ofText "/id", none, false⟩

def equippedSources : Sources := ⟨[1], [2], none, some (.ofText "/home/script"), some (.ofText "/home/seed"), ""⟩

def equippedWorld : World := { disk := equippedDisk, temporary := .ofText "/tmp", draw := fun _ => "" }

/-- What an install leaves: it made the runner and the copies. -/
def installedWorld : World :=
  { equippedWorld with
    disk := ((equippedDisk.set (located ["home", ".config", "gascan", "ansible.pex"]) (.file 0o550 [1])).set
      (located ["home", "bin", "dynamic-inventory.py"]) (.file 0o550 [4])).set
      (located ["home", ".config", "gascan", "secrets.yaml"]) (.file 0o600 [3])
    printed := "Copying inventory '/home/seed' to '/home/.config/gascan/secrets.yaml'\n" }

/-- What it reports in front of the settings. -/
def copiesReport : Report :=
  { Report.start equippedHost with
    created := [.ofText "/home/.config/gascan/ansible.pex", .ofText "/home/bin/dynamic-inventory.py",
      .ofText "/home/.config/gascan/secrets.yaml"]
    kept := [.ofText "/home/.config/gascan/.vault-key", .ofText "/home/bin/ansible.sh", .ofText "/home/bin/ansible",
      .ofText "/home/bin/ansible-playbook", .ofText "/home/bin/ansible-vault", .ofText "/home/bin/ansible-config",
      .ofText "/home/bin/ansible-inventory"] }

/-- The first five steps, each of which is evaluated on the disk. The world itself is not evaluated: it contains the
names that are drawn for workspaces, as a function. -/
theorem runFrom_copies_equippedHost :
    runFrom (((steps equippedHost ⟨0, 0⟩ equippedSources).take 5).foldlM (fun r step => step r)
      (Report.start equippedHost)) equippedWorld = (.ok copiesReport, installedWorld) := by
  -- the key and the helper with its links are there
  let r₁ : Report := { Report.start equippedHost with kept := copiesReport.kept.take 1 }
  let r₂ : Report := { Report.start equippedHost with kept := copiesReport.kept }
  have hkey : runFrom (Program.onDisk (installVaultKey equippedHost ⟨0, 0⟩ (Report.start equippedHost))) equippedWorld =
      (.ok r₁, equippedWorld) :=
    runFrom_onDisk_eq_ok.mpr ⟨by decide +kernel, rfl⟩
  have hhelper : runFrom (Program.onDisk (installHelper [2] r₁)) equippedWorld = (.ok r₂, equippedWorld) :=
    runFrom_onDisk_eq_ok.mpr ⟨by decide +kernel, rfl⟩
  -- the runner and the script are made
  let r₃ : Report := { r₂ with created := copiesReport.created.take 1 }
  let r₄ : Report := { r₂ with created := copiesReport.created.take 2 }
  let w₃ : World := { equippedWorld with
    disk := equippedDisk.set (located ["home", ".config", "gascan", "ansible.pex"]) (.file 0o550 [1]) }
  let w₄ : World := { w₃ with disk := w₃.disk.set (located ["home", "bin", "dynamic-inventory.py"]) (.file 0o550 [4]) }
  have hrunner : runFrom (Program.onDisk (installFile (equippedHost.configDirectory.joinText "ansible.pex") [1] 0o550 r₂))
      equippedWorld = (.ok r₃, w₃) :=
    runFrom_onDisk_eq_ok.mpr ⟨by decide +kernel, rfl⟩
  have hscript : runFrom (Program.onDisk (installCopy (.ofText "/home/script") r₃.dynamicInventory 0o550 r₃)) w₃ =
      (.ok r₄, w₄) :=
    runFrom_onDisk_eq_ok.mpr ⟨by decide +kernel, rfl⟩
  -- and the seed, after it was announced
  let seed : Path := .ofText "/home/seed"
  have hseed : runFrom (installSeed seed r₄) w₄ = (.ok copiesReport, installedWorld) := by
    have hfree : w₄.disk.occupied (r₄.configDirectory.joinText secretsName) = false := by decide +kernel
    have hread : w₄.disk.readFile seed = .ok [3] := by decide +kernel
    have hcopy : runFrom (installFile (r₄.configDirectory.joinText secretsName) [3] 0o600 r₄) w₄.disk =
        (.ok copiesReport, installedWorld.disk) := by
      decide +kernel
    have hline : s!"Copying inventory '{seed.display}' to '{(r₄.configDirectory.joinText secretsName).display}'" =
        "Copying inventory '/home/seed' to '/home/.config/gascan/secrets.yaml'" := by
      decide +kernel
    rw [installSeed_of_readFile hfree hread hline hcopy]
    rfl
  simp only [steps, equippedSources, Option.toList, List.map_cons, List.map_nil, List.append_nil, List.cons_append,
    List.nil_append, List.take_succ_cons, List.take_zero, List.foldlM_cons, List.foldlM_nil]
  rw [runFrom_bind_ok hkey, runFrom_bind_ok hhelper, runFrom_bind_ok hrunner, runFrom_bind_ok hscript,
    runFrom_bind_ok hseed, runFrom_pure]

/-- Settings and the sample for the connection helper are there. -/
def installedReport : Report :=
  (copiesReport.record copiesReport.inventorySettings false).record
    (equippedHost.configDirectory.joinText "connect-py.json") false

/-- The settings that stand there have no headers, so there is nothing to tell. -/
theorem runFrom_settings_equippedHost :
    runFrom (Program.onDisk (installSettings equippedHost ⟨0, 0⟩ "" copiesReport)) installedWorld =
      (.ok (copiesReport.record copiesReport.inventorySettings false), installedWorld) := by
  have hread : installedWorld.disk.readFile copiesReport.inventorySettings = .ok (Text.encode plainSettings) := by decide +kernel
  have hload : runFrom (FetchSettings.load copiesReport.inventorySettings) installedWorld.disk =
      (.ok ⟨[], "", 0, 0, ""⟩, installedWorld.disk) := by
    refine load_eq_ok_iff.mpr ⟨rfl, plainSettings, ?_, by decide +kernel⟩
    simp [readText, hread, bind, Except.bind]
  refine runFrom_onDisk_eq_ok.mpr ⟨?_, rfl⟩
  rw [installSettings, runFrom_get_bind, if_pos (by decide +kernel), runFrom_bind_ok hload]
  rfl

/-- The sample for the connection helper is there as well. -/
theorem isTaken_connect_equippedHost :
    installedWorld.disk.IsTaken (equippedHost.configDirectory.joinText "connect-py.json") where
  occupied := by decide +kernel
  parent q hq := by
    rw [parent?_joinText_configDirectory (by decide)] at hq
    cases hq
    exact .inr (by decide +kernel)

/-- All steps of an install at the host of the operator, evaluated one after the other: the runner and the copies are
made, and settings that stand there already are read. -/
theorem install_equippedHost :
    (install equippedHost ⟨0, 0⟩ equippedSources).runOn equippedWorld = (.ok installedReport, installedWorld) := by
  have hdirectories : runFrom (Program.onDisk (makeDirectories equippedHost)) equippedWorld = (.ok (), equippedWorld) :=
    runFrom_onDisk_eq_ok.mpr ⟨makeDirectories_of_isDirectory (by decide +kernel) (by decide +kernel), rfl⟩
  have hconnect : ∀ content r, runFrom (Program.onDisk
      (installFile (equippedHost.configDirectory.joinText "connect-py.json") content 0o640 r)) installedWorld =
        (.ok (r.record (equippedHost.configDirectory.joinText "connect-py.json") false), installedWorld) := by
    intro content r
    refine runFrom_onDisk_eq_ok.mpr ⟨?_, rfl⟩
    rw [installFile, runFrom_bind_ok (writeNewFile_of_isTaken (Path.endsInName_joinText _ (by decide))
      isTaken_connect_equippedHost)]
    rfl
  rw [program_runOn_eq, install_eq, runFrom_bind_ok hdirectories, ← List.take_append_drop 5 (steps _ _ _),
    List.foldlM_append, runFrom_bind_ok runFrom_copies_equippedHost]
  -- two steps are left
  simp only [steps, equippedSources, Option.toList, List.map_cons, List.map_nil, List.append_nil, List.cons_append,
    List.nil_append, List.drop_succ_cons, List.drop_zero, List.foldlM_cons, List.foldlM_nil]
  rw [runFrom_bind_ok runFrom_settings_equippedHost, runFrom_bind_ok (hconnect _ _)]
  rfl

/-- A second install, for which the identity of the machine is gone, keeps the runner and the copies. -/
theorem install_again_equippedHost :
    equippedDisk.IsTree ∧ equippedDisk.isDirectory equippedHost.home = true ∧
      (install equippedHost ⟨0, 0⟩ equippedSources).runOn equippedWorld = (.ok installedReport, installedWorld) ∧
      ∃ r', (install { equippedHost with machineId := .ofText "/gone" } ⟨1, 0⟩ equippedSources).runOn installedWorld =
          (.ok r', installedWorld) ∧ r'.created = [] ∧
        (∀ p ∈ installedReport.created ++ installedReport.kept, p ∈ r'.kept) ∧
        r'.identifier = "" ∧ r'.token = "" := by
  have htree : equippedDisk.IsTree := isTree_of_forall_mem (by decide +kernel) (by decide +kernel)
  have hhome : equippedDisk.isDirectory equippedHost.home = true := by decide +kernel
  have hscript : equippedDisk.readFile (.ofText "/home/script") = .ok [4] := by decide +kernel
  have hseed : equippedDisk.readFile (.ofText "/home/seed") = .ok [3] := by decide +kernel
  refine ⟨htree, hhome, install_equippedHost, ?_⟩
  -- the second install is on a host whose identity is gone, and at another time
  refine install_again equippedHost _ ⟨0, 0⟩ ⟨1, 0⟩ equippedSources equippedWorld installedWorld installedWorld
    installedReport htree hhome rfl ?_ ?_ install_equippedHost rfl
  · rintro _ ⟨⟩
    exact ⟨_, hscript⟩
  · rintro _ ⟨⟩
    exact ⟨_, hseed⟩

end Equipped

end Bootstrap.Host
