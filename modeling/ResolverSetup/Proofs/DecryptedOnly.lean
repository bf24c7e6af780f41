import ResolverSetup.Proofs.SuccessiveBuilds
import ResolverSetup.Proofs.TwoRuns
/-! A build takes proxies and servers from its decrypter alone, and what the decrypter could not do
shows nowhere but among the entries of the log. -/
namespace ResolverSetup

section
variable {σ ε α β : Type} {g : σ → σ} {reached : Prop} {said said' : List LogEntry}

/-- Two runs from states that differ by a change. Both stop before a certain point and have logged
the same, or both pass it: each logs something of its own there, and all else is the same again. -/
inductive AlikeAround (g : σ → σ) (reached : Prop) (said said' : List LogEntry) :
    Traced ε α × σ → Traced ε α × σ → Prop
  | before (h : ¬ reached) (log : List LogEntry) (e : ε) (s : σ) :
    AlikeAround g reached said said' (⟨log, .error e⟩, s) (⟨log, .error e⟩, g s)
  | past (h : reached) (front back : List LogEntry) (outcome : Except ε α) (s : σ) :
    AlikeAround g reached said said' (⟨front ++ said ++ back, outcome⟩, s)
      (⟨front ++ said' ++ back, outcome⟩, g s)

namespace AlikeAround

theorem perform {x : Traced ε α} {f f' : α → Procedure σ ε β} {s : σ}
    (hstop : ∀ e, x.outcome = .error e → ¬ reached)
    (hgo : ∀ a, x.outcome = .ok a → AlikeAround g reached said said' (f a s) (f' a (g s))) :
    AlikeAround g reached said said' ((Procedure.perform x >>= f) s)
      ((Procedure.perform x >>= f') (g s)) := by
  cases hx : x.outcome with
  | error e =>
    have hfirst : (Procedure.perform x s).1.outcome = .error e := hx
    have hsecond : (Procedure.perform x (g s)).1.outcome = .error e := hx
    rw [Procedure.bind_of_error hfirst, Procedure.bind_of_error hsecond]
    exact .before (hstop e hx) x.log e s
  | ok a =>
    have hfirst : (Procedure.perform x s).1.outcome = .ok a := hx
    have hsecond : (Procedure.perform x (g s)).1.outcome = .ok a := hx
    rw [Procedure.bind_of_ok hfirst, Procedure.bind_of_ok hsecond]
    have hrest := hgo a hx
    change AlikeAround g reached said said' (⟨x.log ++ (f a s).1.log, (f a s).1.outcome⟩, (f a s).2)
      (⟨x.log ++ (f' a (g s)).1.log, (f' a (g s)).1.outcome⟩, (f' a (g s)).2)
    generalize f a s = y at hrest ⊢
    generalize f' a (g s) = y' at hrest ⊢
    cases hrest with
    | before h log e t => exact .before h _ e t
    | past h front back outcome t =>
      rw [← List.append_assoc, ← List.append_assoc, ← List.append_assoc, ← List.append_assoc]
      exact .past h _ back outcome t

/-- At the point itself: what comes next does not tell the two runs apart. -/
theorem here (h : reached) {p p' : Procedure σ ε α} {s : σ} (hp : p' (g s) = ((p s).1, g (p s).2)) :
    AlikeAround g reached said said' (⟨said ++ (p s).1.log, (p s).1.outcome⟩, (p s).2)
      (⟨said' ++ (p' (g s)).1.log, (p' (g s)).1.outcome⟩, (p' (g s)).2) := by
  rw [hp]
  exact .past h [] _ _ _

end AlikeAround
end

namespace Request

def withProxiesAndServers (q : Request) (ps : List Proxy) (ss : List Server) : Request :=
  { q with proxies := ps, servers := ss }

def SameOtherwise (q q' : Request) : Prop :=
  q.withProxiesAndServers [] [] = q'.withProxiesAndServers [] []

theorem SameOtherwise.eq_with {q q' : Request} (h : q.SameOtherwise q') :
    q' = q.withProxiesAndServers q'.proxies q'.servers :=
  (congrArg (fun r => r.withProxiesAndServers q'.proxies q'.servers) h).symm

end Request

namespace Collaborators
open Procedure
variable {ε : Type}

theorem perform_ok_bind {σ α β : Type} (log : List LogEntry) (a : α) (f : α → Procedure σ ε β)
    (s : σ) : (Procedure.perform ⟨log, .ok a⟩ >>= f) s =
      (⟨log ++ (f a s).1.log, (f a s).1.outcome⟩, (f a s).2) := Procedure.bind_of_ok rfl f

def AsksDecrypter (c : Collaborators ε) (q : Request) : Prop :=
  ∃ agent handlers store, (c.userAgent q.systemProperties).outcome = .ok agent ∧
    c.handlers.outcome = .ok handlers ∧
    (c.openStore ⟨q.localRepository, ""⟩).outcome = .ok store

theorem run_alikeAround (c : Collaborators ε) {q : Request} {ps ps' : List Proxy}
    {ss ss' : List Server} {log log' : List LogEntry} {problems problems' : List String}
    (hd : c.decrypt q.proxies q.servers = ⟨log, .ok ⟨ps, ss, problems⟩⟩)
    (hd' : c.decrypt ps' ss' = ⟨log', .ok ⟨ps, ss, problems'⟩⟩) :
    AlikeAround (·.withProxiesAndServers ps' ss') (c.AsksDecrypter q)
      (log ++ problems.map (.debug .builder)) (log' ++ problems'.map (.debug .builder))
      (c.run q) (c.run (q.withProxiesAndServers ps' ss')) := by
  rw [run, current_bind, current_bind]
  refine .perform (fun e he => ?_) fun agent hagent => ?_
  · rintro ⟨_, _, _, h, _⟩
    cases he.symm.trans h
  refine .perform (fun e he => ?_) fun handlers hhandlers => ?_
  · rintro ⟨_, _, _, _, h, _⟩
    cases he.symm.trans h
  refine .perform (fun e he => ?_) fun store hstore => ?_
  · rintro ⟨_, _, _, _, _, h⟩
    cases he.symm.trans h
  have hasked : c.AsksDecrypter q := ⟨agent, handlers, store, hagent, hhandlers, hstore⟩
  have hd' : c.decrypt (q.withProxiesAndServers ps' ss').proxies
      (q.withProxiesAndServers ps' ss').servers = ⟨log', .ok ⟨ps, ss, problems'⟩⟩ := hd'
  rw [hd, hd', perform_ok_bind, perform_ok_bind, Traced.notes, Traced.notes, perform_ok_bind,
    perform_ok_bind, ← List.append_assoc, ← List.append_assoc]
  refine .here hasked ?_
  -- behind this point a build looks at neither the proxies nor the servers of its request
  refine Overlooks.bind (g := (·.withProxiesAndServers ps' ss')) (.perform _)
    (fun listeners => ?_) q
  refine .bind (.perform _) fun remote => ?_
  refine .bind (.perform _) fun plugin => ?_
  refine .bind (.change fun _ => rfl) fun _ => ?_
  refine .bind (.change fun _ => rfl) fun _ => ?_
  refine .bind (.perform _) fun entry => ?_
  refine .bind (.perform _) fun _ => ?_
  exact .pure _

/-- Requests that differ in their proxies and servers alone are built alike where the decrypter
answers both with the same proxies and servers: the fault is the same or the sessions are equal, and
the same repositories are written back. Builds that get as far as the decrypter log its problems in
their order at the level of debugging, each build its own; apart from what the decrypter logs by
itself, all other entries are the same. -/
theorem run_decryptedOnly (c : Collaborators ε) {q q' : Request} (hq : q.SameOtherwise q')
    {d d' : Decryption} {log log' : List LogEntry}
    (hd : c.decrypt q.proxies q.servers = ⟨log, .ok d⟩)
    (hd' : c.decrypt q'.proxies q'.servers = ⟨log', .ok d'⟩)
    (hproxies : d.proxies = d'.proxies) (hservers : d.servers = d'.servers) :
    (c.run q).1.outcome = (c.run q').1.outcome ∧
    (c.run q').2 = (c.run q).2.withProxiesAndServers q'.proxies q'.servers ∧
    ((c.AsksDecrypter q ∧ ∃ front back,
        (c.run q).1.log = front ++ (log ++ d.problems.map (.debug .builder)) ++ back ∧
        (c.run q').1.log = front ++ (log' ++ d'.problems.map (.debug .builder)) ++ back) ∨
      (¬ c.AsksDecrypter q ∧ (c.run q).1.log = (c.run q').1.log ∧
        ∃ e, (c.run q).1.outcome = .error e)) := by
  obtain ⟨ps, ss, problems⟩ := d
  obtain ⟨ps', ss', problems'⟩ := d'
  obtain rfl : ps = ps' := hproxies
  obtain rfl : ss = ss' := hservers
  have halike := c.run_alikeAround hd hd'
  rw [← hq.eq_with] at halike
  generalize c.run q = x at halike ⊢
  generalize c.run q' = x' at halike ⊢
  cases halike with
  | before hasked log e s => exact ⟨rfl, rfl, .inr ⟨hasked, rfl, e, rfl⟩⟩
  | past hasked front back outcome s => exact ⟨rfl, rfl, .inl ⟨hasked, front, back, rfl, rfl⟩⟩

def vault : Decrypter := fun ps _ =>
  ⟨[Bindings.sampleProxy], [Bindings.sampleServer], ps.map fun p => "No key for " ++ p.host⟩

def vaultBuilder : Builder := { sampleBuilder with decrypter := vault }

/-- The problem with the proxy of one request is all that shows of it. -/
theorem run_vaultBuilder :
    sampleRequest.SameOtherwise (sampleRequest.withProxiesAndServers [] []) ∧
    ∃ s front back,
      (vaultBuilder.collaborators.run sampleRequest).1 =
        ⟨front ++ [.debug .builder ("No key for " ++ Bindings.sampleProxy.host)] ++ back, .ok s⟩ ∧
      (vaultBuilder.collaborators.run (sampleRequest.withProxiesAndServers [] [])).1 =
        ⟨front ++ [] ++ back, .ok s⟩ := by
  have hsame : sampleRequest.SameOtherwise (sampleRequest.withProxiesAndServers [] []) := rfl
  have hok : (vaultBuilder.collaborators.run sampleRequest).1.outcome.isOk = true := by
    decide +kernel
  obtain ⟨houtcome, _, hlogs⟩ :=
    vaultBuilder.collaborators.run_decryptedOnly hsame rfl rfl rfl rfl
  generalize vaultBuilder.collaborators.run sampleRequest = x at hok houtcome hlogs ⊢
  generalize vaultBuilder.collaborators.run (sampleRequest.withProxiesAndServers [] []) = x'
    at houtcome hlogs ⊢
  obtain ⟨⟨log, outcome⟩, after⟩ := x
  obtain ⟨⟨log', outcome'⟩, after'⟩ := x'
  cases outcome with
  | error e => cases hok
  | ok s =>
    obtain rfl : Except.ok s = outcome' := houtcome
    obtain ⟨_, front, back, rfl, rfl⟩ | ⟨_, _, e, he⟩ := hlogs
    · exact ⟨hsame, s, front, back, rfl, rfl⟩
    · cases he

end Collaborators
end ResolverSetup
