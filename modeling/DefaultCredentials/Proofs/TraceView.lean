import DefaultCredentials.Credential.Refresh

/-!
# What is seen of a trace

Statements about what a run does are mostly about one kind of happening.  A view picks that kind out
of the trace, and `Host.Shows` says what it shows of all that happened from one host to a later one.
What is shown adds up along a run and can be told from the trace at its end.

Getting a token adds little to the trace: a request that `Credential.Posts` lists or a question to
an identity service, the exchange itself, and a log entry.  A view that overlooks all but the
exchange shows just that (`Credential.shows_refresh`).
-/

namespace DefaultCredentials.Host

variable {α : Type}

/-- From a host to a later one, a view shows just this of what happened, the last first. -/
def Shows (view : Happening → Option α) (h h' : Host) (seen : List α) : Prop :=
  ∃ new, h'.trace = new ++ h.trace ∧ new.filterMap view = seen

namespace Shows

variable {view : Happening → Option α} {h h₁ h₂ : Host} {before after : List α}

theorem refl (view : Happening → Option α) (h : Host) : Shows view h h [] :=
  ⟨[], rfl, rfl⟩

theorem trans (h01 : Shows view h h₁ before) (h12 : Shows view h₁ h₂ after) :
    Shows view h h₂ (after ++ before) := by
  obtain ⟨new, ht, rfl⟩ := h01
  obtain ⟨newer, ht', rfl⟩ := h12
  exact ⟨newer ++ new, by rw [ht', ht, List.append_assoc], List.filterMap_append⟩

theorem noted (hs : Shows view h h₁ before) (x : Happening) :
    Shows view h (h₁.note x) ((view x).toList ++ before) := by
  have hx : Shows view h₁ (h₁.note x) (view x).toList :=
    ⟨[x], rfl, by cases hv : view x <;> simp [hv]⟩
  exact hs.trans hx

theorem note {x : Happening} (hs : Shows view h h₁ before) (hx : view x = none) :
    Shows view h (h₁.note x) before := by
  simpa [hx] using hs.noted x

theorem filterMap_since (hs : Shows view h h₁ before) : (h₁.since h).filterMap view = before := by
  obtain ⟨new, ht, hr⟩ := hs
  rw [since_eq ht, hr]

end Shows
end DefaultCredentials.Host

namespace DefaultCredentials.Credential

/-! ### Getting a token -/

/-- The requests that a credential can send for a token. -/
inductive Posts (c : Credential) : Request → Prop
  | assertion {key : ServiceAccountKey} {uri : Value} {signer : Signer} (text : String) :
      c.material = .serviceAccount key uri signer →
      Posts c (formRequest uri (assertionFields text) c.settings)
  | grant {grant : UserGrant} {uri : Value} : c.material = .user grant uri →
      Posts c (formRequest uri (grantFields grant) c.settings)
  | machine : c.material = .compute → Posts c (computeRequest c.settings)

/-- From a host to a later one nothing happens but what a credential does for a token. -/
def OnlyAsks (c : Credential) (h h' : Host) : Prop :=
  ∃ new, h'.trace = new ++ h.trace ∧
    ∀ x ∈ new, x = .identityAsked c.scopes ∨ ∃ r, c.Posts r ∧ x = .requested c.channel r

theorem onlyAsks_exchange (c : Credential) (h : Host) : c.OnlyAsks h (c.exchange h).2.2 := by
  have hsend {r : Request} (hr : c.Posts r) : c.OnlyAsks h (h.send c.channel r).2 :=
    ⟨[.requested c.channel r], Host.trace_send .., by simpa using hr⟩
  have hpost {uri : Value} {fields : List (String × Value)}
      (hp : c.Posts (formRequest uri fields c.settings)) :
      c.OnlyAsks h (c.post uri fields h).2 := by
    cases hf : Form.ragged? fields with
    | some text =>
        rw [post_of_ragged hf]
        exact ⟨[], rfl, List.forall_mem_nil _⟩
    | none =>
        rw [post_of_encodable hf]
        exact hsend hp
  unfold exchange
  split
  · rename_i key uri signer hm
    split
    · exact ⟨[], rfl, List.forall_mem_nil _⟩
    · exact hpost (.assertion _ hm)
  · rename_i grant uri hm
    exact hpost (.grant hm)
  · rename_i hm
    exact hsend (.machine hm)
  · by_cases hi : h.identity.isSome
    · exact ⟨[.identityAsked c.scopes], by simp [Host.trace_askIdentity, hi], by simp⟩
    · exact ⟨[], by simp [Host.trace_askIdentity, hi], List.forall_mem_nil _⟩
  · split <;> exact ⟨[], rfl, List.forall_mem_nil _⟩

@[simp] theorem now_post (c : Credential) (url : Value) (fields : List (String × Value))
    (h : Host) : (c.post url fields h).2.now = h.now := by
  unfold post
  split
  · rfl
  · exact Host.now_send ..

@[simp] theorem now_exchange (c : Credential) (h : Host) : (c.exchange h).2.2.now = h.now := by
  unfold exchange
  split
  · split
    · rfl
    · exact now_post ..
  · exact now_post ..
  · exact Host.now_send ..
  · exact Host.now_askIdentity ..
  · split <;> rfl

theorem host_fetch (c : Credential) (h : Host) :
    (c.fetch h).2.2 = (c.exchange h).2.2.note (.exchanged h.now (c.fetch h).1) := by
  rw [← now_exchange c h]
  rfl

/-- A refresh leaves the host as its exchange does, but for what it logs. -/
theorem host_refresh (c : Credential) (h : Host) :
    (c.refresh h).2.2 = (c.fetch h).2.2 ∨ ∃ e, (c.refresh h).2.2 = (c.fetch h).2.2.log e := by
  unfold refresh
  dsimp only
  split
  · split
    · exact .inr ⟨_, rfl⟩
    · exact .inl rfl
  · exact .inr ⟨_, rfl⟩
  · exact .inl rfl

variable {α : Type} {view : Happening → Option α} {c : Credential}

/-- A view that picks nothing of how a credential gets a token, but for the exchange itself. -/
structure Overlooks (view : Happening → Option α) (c : Credential) : Prop where
  posted : ∀ r, c.Posts r → view (.requested c.channel r) = none
  asked : ∀ scopes, view (.identityAsked scopes) = none
  logged : ∀ e, view (.logged e) = none

theorem shows_exchange (hv : Overlooks view c) (h : Host) :
    h.Shows view (c.exchange h).2.2 [] := by
  obtain ⟨new, ht, hnew⟩ := onlyAsks_exchange c h
  refine ⟨new, ht, List.filterMap_eq_nil_iff.mpr fun x hx => ?_⟩
  rcases hnew x hx with rfl | ⟨r, hr, rfl⟩
  · exact hv.asked _
  · exact hv.posted r hr

/-- What is seen of a refresh is the exchange. -/
theorem shows_refresh (hv : Overlooks view c) (h : Host) :
    h.Shows view (c.refresh h).2.2 (view (.exchanged h.now (c.fetch h).1)).toList := by
  have hfetch : h.Shows view (c.fetch h).2.2 (view (.exchanged h.now (c.fetch h).1)).toList := by
    rw [host_fetch]
    simpa using (shows_exchange hv h).noted (.exchanged h.now (c.fetch h).1)
  rcases host_refresh c h with heq | ⟨e, heq⟩
  · rwa [heq]
  · rw [heq]
    exact hfetch.note (hv.logged e)

/-! ### Later states of a credential -/

/-- A credential asks for tokens as another does: on its transport, and by none but its requests. -/
structure AsksAs (c' c : Credential) : Prop where
  channel : c'.channel = c.channel
  posts : ∀ r, c'.Posts r → c.Posts r

namespace AsksAs

variable {c₁ c₂ c₃ : Credential}

theorem refl (c : Credential) : c.AsksAs c :=
  ⟨rfl, fun _ hr => hr⟩

theorem trans (h12 : c₁.AsksAs c₂) (h23 : c₂.AsksAs c₃) : c₁.AsksAs c₃ :=
  ⟨h12.channel.trans h23.channel, fun r hr => h23.posts r (h12.posts r hr)⟩

theorem settle (hc : c₁.AsksAs c₂) (slot : Slot) : { c₁ with slot := slot }.AsksAs c₂ where
  channel := hc.channel
  posts r hr := hc.posts r <| by
    cases hr with
    | assertion text hm => exact .assertion text hm
    | grant hm => exact .grant hm
    | machine hm => exact .machine hm

end AsksAs

theorem asksAs_exchange (c : Credential) (h : Host) : (c.exchange h).2.1.AsksAs c := by
  unfold exchange
  split
  · split <;> exact .refl c
  · exact .refl c
  · exact .refl c
  · exact .refl c
  · split
    · exact .refl c
    · -- What is left of custom material sends no request.
      refine ⟨rfl, fun r hr => ?_⟩
      cases hr with
      | assertion _ hm => cases hm
      | grant hm => cases hm
      | machine hm => cases hm

theorem asksAs_refresh (c : Credential) (h : Host) : (c.refresh h).2.1.AsksAs c := by
  rw [credential_refresh]
  exact (asksAs_exchange c h).settle _

theorem asksAs_currentToken (c : Credential) (h : Host) : (c.currentToken h).2.1.AsksAs c := by
  have hr := asksAs_refresh c h
  unfold currentToken
  split
  · exact .refl c
  · split <;> rename_i he <;> rwa [he] at hr

end DefaultCredentials.Credential
