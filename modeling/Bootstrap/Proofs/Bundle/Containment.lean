import Bootstrap.Bundle.Extract
import Bootstrap.Proofs.Bundle.Extraction
import Bootstrap.Proofs.Bundle.Placement
import Bootstrap.Proofs.Disk.Confinement
import Mathlib.Tactic.Common

/-!
# Containment of extraction

The policy of `Bundle.classify` looks at one entry at a time, but an entry is written through the links that earlier
entries made. What holds over all entries is `Disk.Confined`: as long as every link below the destination descends, no
walk along a placed path leaves the destination, so the next entry is written below it too, and the links that it makes
descend again.

* `Bundle.keepsAt_confined` — what is written at one placement keeps the invariant, so a whole bundle keeps it.
* `Bundle.extract_contained` — the statement about a bundle.
-/

namespace Bootstrap.Bundle

open Effect Disk

variable {d₀ : Disk} {dest : Path} {top : Location} {faults : Faults}

/-! ## Placements -/

/-- Whatever is written at a placement is written below the destination: the policy lets only paths through that
descend, and the links that it lets through descend as well. -/
theorem keepsAt_confined {name : Path} {link : Option Path} {adhoc : Bool} {at_ : Placement}
    (h : classify name link adhoc = .place at_) : KeepsAt (Confined d₀ dest top) faults dest at_ := by
  obtain ⟨hrel, hlink⟩ := descends_of_classify_eq_place h
  have halong : Path.Along dest at_.relative.names (dest.join at_.relative) := .join hrel.relative
  refine ⟨Confined.keeps_createDirectory hrel, fun _ => Confined.keeps_writeFile hrel, fun target htarget => ?_⟩
  -- the parent may be a part of the destination, where nothing can be missing
  exact keeps_placeLink
    (fun q hq d hd hmissing => hd.createDirectory_of_missing (halong.parent? hq) hrel.noParent hmissing)
    (Action.keeps_createLink (Confined.addLink halong hrel.noParent (hlink target htarget)))

/-! ## Bundles -/

/-- All placements of a bundle keep the invariant, whatever members it has, so an extraction does. -/
theorem keeps_extract (b : Bundle) (adhoc : Bool) (faults : Faults) :
    Keeps (Confined d₀ dest top) (b.extract dest adhoc faults) :=
  keeps_extract_of_keepsAt (fun _ _ _ => keepsAt_confined) b

/-- **Containment.** Let a destination lead to the directory `top`, and let every symbolic link below `top` be relative
and without `..`. After any bundle is extracted there, with or without success and on any device, everything that is not
`top` or below it is exactly as before, and every link below `top` is again relative and without `..`. -/
theorem extract_contained (b : Bundle) (adhoc : Bool) (d : Disk) (dest : Path) (top : Location) (mode : Nat)
    (faults : Faults)
    (hdest : d.status dest = .ok (top, .directory mode))
    (hlinks : ∀ l target, isBelow top l = true → d.get? l = some (.link target) → target.Descends) :
    let d' := ((b.extract dest adhoc faults).runOn d).2
    (∀ l, ¬ top <+: l → d'.get? l = d.get? l) ∧
      ∀ l target, isBelow top l = true → d'.get? l = some (.link target) → target.Descends := by
  have hconfined := keeps_extract b adhoc faults d (Confined.start ⟨mode, hdest⟩ hlinks)
  exact ⟨hconfined.outside, hconfined.links⟩

/-- A key, and beside it a directory in which a link already stands. -/
def furnishedDisk : Disk :=
  ⟨[], [([], .directory 0o755), ([Text.encode "key"], .file 0o600 [1]), ([Text.encode "ws"], .directory 0o700),
    ([Text.encode "ws", Text.encode "now"], .link (.ofText "logs"))]⟩

/-- Files behind links that are made on the way, and names that lead to the key if they are written as they are. -/
def climbingBundle : Bundle :=
  .pack [.directory (.ofText "logs"), .link (.ofText "a") (.ofText "now"), .file (.ofText "a/key") [2],
    .link (.ofText "b") (.ofText "../key"), .file (.ofText "b") [3], .file (.ofText "a/../../key") [4]]

/-- The key beside the destination survives, although one member names it by way of `..` and one link is to lead to
it. -/
theorem extract_contained_climbingBundle :
    furnishedDisk.status (.ofText "/ws") = .ok ([Text.encode "ws"], .directory 0o700) ∧
      furnishedDisk.LinksDescend [Text.encode "ws"] ∧
      let d' := ((climbingBundle.extract (.ofText "/ws") false).runOn furnishedDisk).2
      d'.get? [Text.encode "key"] = some (.file 0o600 [1]) ∧ d'.LinksDescend [Text.encode "ws"] := by
  have hdest : furnishedDisk.status (.ofText "/ws") = .ok ([Text.encode "ws"], .directory 0o700) := by decide +kernel
  have hlinks : furnishedDisk.LinksDescend [Text.encode "ws"] := by
    refine linksDescend_of_forall_mem _ fun entry hentry target htarget => ?_
    simp only [furnishedDisk, List.mem_cons, List.not_mem_nil, or_false] at hentry
    rcases hentry with rfl | rfl | rfl | rfl <;> cases htarget
    decide +kernel
  obtain ⟨houtside, hlinks'⟩ := extract_contained climbingBundle false _ _ _ _ .none hdest hlinks
  refine ⟨hdest, hlinks, ?_, hlinks'⟩
  rw [houtside _ (by decide +kernel)]
  decide +kernel

end Bootstrap.Bundle
