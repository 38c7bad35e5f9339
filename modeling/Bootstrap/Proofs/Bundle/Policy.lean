import Bootstrap.Proofs.Bundle.Placement

/-!
# The policy and the spelling of an entry

`Bundle.classify` reads components, while archives and links hold bytes. `Bundle.classify_spelling` says in terms of the
bytes what is refused and where the rest goes, and that it matters nowhere how a name or a target is spelled.
-/

namespace Bootstrap.Bundle

open Bootstrap.Path

variable {p q : Path} {name name' : Path} {link link' : Option Path} {adhoc : Bool}

/-! ## Below the top directory -/

/-- `q` is written with the steps of `p`, one slash between each two, and one leading top directory is gone. -/
def MovesTo (p q : Path) : Prop :=
  ∃ ns : List (List UInt8),
    (∀ n ∈ ns, IsPlain n) ∧ q.bytes = [slash].intercalate ns ∧ q.bytes.head? ≠ some slash ∧
    (p.steps = Text.encode topDirectory :: ns ∨ p.steps = ns ∧ ns.head? ≠ some (Text.encode topDirectory))

/-- Either the top directory stands in front, and it is dropped, or nothing is. A path that consists of it alone becomes
the destination. -/
theorem belowTop_cases (ns : List (List UInt8)) :
    ns = Text.encode topDirectory :: belowTop ns ∨
      ns = belowTop ns ∧ (belowTop ns).head? ≠ some (Text.encode topDirectory) := by
  cases ns with
  | nil => exact .inr ⟨rfl, by simp [belowTop]⟩
  | cons n ns =>
      by_cases htop : n = Text.encode topDirectory
      · left
        rw [belowTop, if_pos htop, htop]
      · right
        rw [belowTop, if_neg htop]
        exact ⟨rfl, by simpa using htop⟩

/-- A path that descends moves to what is left without the top directory, and it is moved nowhere else. -/
theorem movesTo_inner (h : p.Descends) : MovesTo p (inner p) := by
  have hplain : ∀ n ∈ belowTop p.steps, IsPlain n := fun n hn => h.isPlain_of_mem_steps (mem_of_mem_belowTop hn)
  have hinner : inner p = ofComponents ((belowTop p.steps).map .normal) := by
    rw [inner, innerComponents_of_descends h]
  have hrelative : (inner p).isAbsolute = false := (descends_inner h).relative
  refine ⟨belowTop p.steps, hplain, ?_, ?_, belowTop_cases p.steps⟩
  · rw [hinner, bytes_ofComponents hplain]
  · simpa [isAbsolute] using hrelative

/-! ## Other spellings -/

/-- What is read of a path is a function of its front and its steps. -/
theorem filter_components_of_respells (h : p.Respells q) :
    p.components.filter (· ≠ .current) = q.components.filter (· ≠ .current) := by
  rw [filter_components, filter_components, h.isAbsolute, h.steps]

theorem inner_of_respells (h : p.Respells q) : inner p = inner q := by
  rw [inner, inner, innerComponents, innerComponents, filter_components_of_respells h]

theorem escapes_eq_true_iff : escapes p = true ↔ p.LeadsOut := by
  rw [← not_descends_iff, ← escapes_eq_false_iff, Bool.not_eq_false]

theorem escapes_of_respells (h : p.Respells q) : escapes p = escapes q := by
  rw [Bool.eq_iff_iff, escapes_eq_true_iff, escapes_eq_true_iff, ← not_descends_iff, ← not_descends_iff,
    h.descends_iff]

/-- Two spellings of a name, and of a target, are treated alike by the whole policy: by the check for names that lead
out, by the list, and by the placement up to spelling. -/
theorem classify_of_respells (hname : name.Respells name') (hlink : Option.Rel Respells link link') :
    classify name link adhoc = classify name' link' adhoc := by
  have hescapes : link.any escapes = link'.any escapes := by
    cases hlink with
    | none => rfl
    | some htarget => exact escapes_of_respells htarget
  have hinner : link.map inner = link'.map inner := by
    cases hlink with
    | none => rfl
    | some htarget => exact congrArg some (inner_of_respells htarget)
  rw [classify, classify, escapes_of_respells hname, hescapes, inner_of_respells hname, hinner]

/-! ## The policy -/

/-- A member is outside if and only if its name or the target of its link leads out, that is, says the root or a step
up. The list for ad-hoc extractions has no say in this. -/
theorem classify_eq_outside_iff :
    classify name link adhoc = .outside ↔ name.LeadsOut ∨ ∃ target ∈ link, target.LeadsOut := by
  have hlink : link.any escapes = true ↔ ∃ target ∈ link, target.LeadsOut := by
    cases link with
    | none => simp
    | some target => simp [escapes_eq_true_iff]
  rw [← escapes_eq_true_iff, ← hlink, ← Bool.or_eq_true]
  unfold classify
  split
  · next hout => simp [hout]
  · next hout =>
    split
    · simp [hout]
    · simp [hout]

/-- **The entry path policy.** Refused is exactly what starts at the root or has a `..` between slashes; what is placed
goes where the names of the entry lead below the top directory, and its link points where the names of the target lead;
and another spelling of the name or of the target changes nothing. -/
theorem classify_spelling (name : Path) (link : Option Path) (adhoc : Bool) :
    (classify name link adhoc = .outside ↔ name.LeadsOut ∨ ∃ target ∈ link, target.LeadsOut) ∧
      (∀ at_, classify name link adhoc = .place at_ →
        MovesTo name at_.relative ∧ Option.Rel MovesTo link at_.linkTarget) ∧
      ∀ name' link', name.Respells name' → Option.Rel Respells link link' →
        classify name' link' adhoc = classify name link adhoc := by
  refine ⟨classify_eq_outside_iff, fun at_ hplace => ?_, fun name' link' hname hlink => ?_⟩
  · obtain ⟨hname, hlink, -, rfl⟩ := classify_eq_place_iff.mp hplace
    refine ⟨movesTo_inner hname, ?_⟩
    cases link with
    | none => exact .none
    | some target => exact .some (movesTo_inner (hlink target rfl))
  · exact (classify_of_respells hname hlink).symm

/-- A name with dots, repeated slashes and a slash at its end, and a link target with a double slash behind the top
directory. -/
theorem classify_spelling_untidy :
    classify (ofText ".//automation//./plugins/x/") (some (ofText "automation//etc/./x")) true =
      .place ⟨ofText "plugins/x", some (ofText "etc/x")⟩ := by
  have hplain : classify (ofText "automation/plugins/x") (some (ofText "automation/etc/x")) true =
      .place ⟨ofText "plugins/x", some (ofText "etc/x")⟩ := by decide +kernel
  have hname : (ofText "automation/plugins/x").Respells (ofText ".//automation//./plugins/x/") := by decide +kernel
  have htarget : (ofText "automation/etc/x").Respells (ofText "automation//etc/./x") := by decide +kernel
  exact ((classify_spelling _ _ true).2.2 _ _ hname (.some htarget)).trans hplain

end Bootstrap.Bundle
