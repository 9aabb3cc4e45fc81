import DefaultCredentials.Resolver

/-!
# What a search keeps

Looking for the credential of a process does few things to its host: it notes what it looks at and
what it logs, it sends a request to the metadata server, and a managed runtime may have it read the
settings of the process.  A relation between hosts that these steps keep (`Host.Persists`) holds
from the host before a search to the one after it: `Host.Persists.discover` says so of discovery,
and `Host.Persists.resolve` of a resolver.
-/

namespace DefaultCredentials

/-- What a search notes besides its requests. -/
def Happening.IsSearch : Happening → Prop
  | .logged _ | .sought _ | .opened _ | .decoded _ | .probed _ | .made _ => True
  | _ => False

namespace Host

/-- A relation between a host and later ones that the steps of a search under settings keep. -/
structure Persists (s : Settings) (R : Host → Host → Prop) : Prop where
  refl : ∀ h, R h h
  trans : ∀ {h h₁ h₂}, R h h₁ → R h₁ h₂ → R h h₂
  note : ∀ h {x : Happening}, x.IsSearch → R h (h.note x)
  probe : ∀ h channel, R h (h.send channel (Compute.probe s)).2

namespace Persists

open Discovery

variable {t : Settings} {R : Host → Host → Prop} (hR : Persists t R) (s : Scope)
  (channel : Channel) (decoder : Decoder) (h : Host)
include hR

theorem noting {xs : List Happening} (hxs : ∀ x ∈ xs, x.IsSearch) : R h (h.noting xs) := by
  induction xs with
  | nil => exact hR.refl h
  | cons x rest ih =>
      have hrest := ih fun y hy => hxs y (List.mem_cons_of_mem x hy)
      exact hR.trans hrest (hR.note _ (hxs x List.mem_cons_self))

theorem loadFile (p : Path) : R h (loadFile s p channel decoder h).2 := by
  rw [Discovery.loadFile, Credential.load_of_settings]
  refine hR.noting h fun x hx => ?_
  unfold Host.readings at hx
  split at hx
  · rcases List.mem_cons.mp hx with rfl | hx
    · trivial
    · obtain rfl := List.mem_singleton.mp hx
      trivial
  · obtain rfl := List.mem_singleton.mp hx
    trivial

theorem fromPointer : R h (fromPointer s channel decoder h).2 := by
  unfold Discovery.fromPointer
  dsimp only
  split
  · exact hR.refl h
  · rename_i value hv
    have hseek : R h (h.seek (h.absolutePath value)).2 := hR.note h trivial
    generalize h.seek (h.absolutePath value) = sought at hseek ⊢
    obtain ⟨why | _ | _, h'⟩ := sought
    · exact hseek
    · exact hseek
    · exact hR.trans hseek (hR.loadFile ..)

theorem fromWellKnownFile : R h (fromWellKnownFile s channel decoder h).2 := by
  unfold Discovery.fromWellKnownFile
  split
  · exact hR.refl h
  · rename_i p hp
    have hseek : R h (h.seek p).2 := hR.note h trivial
    generalize h.seek p = sought at hseek ⊢
    obtain ⟨why | _ | _, h'⟩ := sought
    · exact hseek
    · exact hseek
    · have hload := hR.trans hseek (hR.loadFile s channel decoder h' p)
      dsimp only
      generalize Discovery.loadFile s p channel decoder h' = made at hload ⊢
      obtain ⟨why | c, h₁⟩ := made
      · exact hload
      · dsimp only
        split
        · exact hR.trans hload (hR.note h₁ trivial)
        · exact hload

theorem fromCompute (ht : s.settings = t) : R h (fromCompute s channel decoder h).2 := by
  have hsend : R h (h.send channel (Compute.probe s.settings)).2 := ht ▸ hR.probe h channel
  unfold Discovery.fromCompute Compute.isAvailable
  generalize h.send channel (Compute.probe s.settings) = sent at hsend ⊢
  obtain ⟨why | answer, h'⟩ := sent
  · dsimp only
    by_cases hk : why.kind? = some .transport
    · rw [if_pos hk]
      exact hR.trans hsend (hR.note h' trivial)
    · rw [if_neg hk]
      exact hsend
  · cases hm : Compute.isMetadataServer answer <;> simp only [hm] <;> exact hsend

theorem isAvailable (a : Adapter) : R h (isAvailable a h).2 := by
  cases a <;> exact hR.note h trivial

/-! ### With a managed runtime -/

section settled

variable (hs : ∀ h, R h h.processSettings.2)
include hs

theorem create (a : Adapter) : R h (create a channel decoder h).2 := by
  have hsettled := hs h
  unfold Discovery.create
  dsimp only
  generalize h.processSettings = settled at hsettled ⊢
  obtain ⟨outcome, h'⟩ := settled
  split
  · cases outcome <;> exact hsettled
  · cases outcome <;> exact hsettled
  · exact hR.refl h
  · exact hR.refl h
  · cases outcome <;> exact hsettled

theorem fromAdapters (adapters : List Adapter) :
    R h (fromAdapters channel decoder adapters h).2 := by
  induction adapters generalizing h with
  | nil => exact hR.refl h
  | cons a rest ih =>
      have ha := hR.isAvailable h a
      unfold Discovery.fromAdapters
      generalize Discovery.isAvailable a h = asked at ha ⊢
      obtain ⟨why | _ | _, h'⟩ := asked
      · exact ha
      · exact hR.trans ha (ih h')
      · have hlogged := hR.trans ha (hR.note h' (x := .logged (.adapterAvailable a.name)) trivial)
        have hmade := hR.trans hlogged (hR.note _ (x := .made a) trivial)
        exact hR.trans hmade (hR.create channel decoder _ hs a)

theorem attempt (ht : s.settings = t) (source : Source) :
    R h (attempt s channel decoder source h).2 := by
  cases source with
  | envFile => exact hR.fromPointer ..
  | wellKnownFile => exact hR.fromWellKnownFile ..
  | sandboxRuntime => exact hR.fromAdapters channel decoder h hs s.adapters
  | computeMetadata => exact hR.fromCompute s channel decoder h ht

/-- What the steps of a search keep holds of discovery. -/
theorem discover (ht : s.settings = t) (sources : List Source) :
    R h (discover s channel decoder sources h).2 := by
  induction sources generalizing h with
  | nil => exact hR.refl h
  | cons source rest ih =>
      have ha := hR.attempt s channel decoder h hs ht source
      unfold Discovery.discover
      generalize Discovery.attempt s channel decoder source h = attempted at ha ⊢
      obtain ⟨why | _ | c, h'⟩ := attempted
      · exact ha
      · have hlogged := hR.note h' (x := .logged (.sourceNotApplicable source.name)) trivial
        exact hR.trans (hR.trans ha hlogged) (ih _)
      · exact ha

/-- It holds of a resolver, which may have something to log at the end. -/
theorem resolve (r : Resolver) (ht : r.scope.settings = t) (w : Wallet) :
    R h (r.resolve channel decoder w h).2.2.2 := by
  have hd := hR.discover r.scope channel decoder h hs ht Source.all
  have hc : R h (Resolver.conclude w
      (Discovery.discover r.scope channel decoder Source.all h)).2.2 := by
    generalize Discovery.discover r.scope channel decoder Source.all h = found at hd ⊢
    obtain ⟨why | ⟨c, source⟩, h'⟩ := found
    · unfold Resolver.conclude
      dsimp only
      split
      · exact hR.trans hd (hR.note h' trivial)
      · exact hd
    · exact hR.trans hd (hR.note h' trivial)
  unfold Resolver.resolve
  split
  · exact hR.refl h
  · generalize Resolver.conclude w
      (Discovery.discover r.scope channel decoder Source.all h) = concluded at hc ⊢
    obtain ⟨why | kept, w', h'⟩ := concluded <;> exact hc

end settled
end Persists
end Host
end DefaultCredentials
