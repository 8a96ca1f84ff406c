import DisplaySurface.Bench.Basic

/-!
What the commands do to a bench.
-/

namespace DisplaySurface.Bench

def display (b : Bench) (name : String) : HeadlessDisplay :=
  (b.displays.get? name).getD {}

def station? (b : Bench) (session : String) : Option (Nat × Station) :=
  (b.sessions.get? session).bind fun i => (b.stations[i]?).map (i, ·)

def modify (i : Nat) (f : Station → Station) (b : Bench) : Bench :=
  { b with stations := b.stations.modify i f }

def settle (i : Nat) (st : Station) (b : Bench) : Bench :=
  let (m, d) := Machine.settle Machine.isHeld (st.machine, b.display st.display)
  let (m, d) :=
    if st.abandoned && m.waiters.isEmpty then Machine.settle Machine.isHeld (m.shutdown, d)
    else (m, d)
  { b with
    displays := b.displays.put st.display d
    stations := b.stations.set i { st with machine := m } }

def outcome? (b : Bench) (station ticket : Nat) : Option Outcome :=
  (b.stations[station]?).bind fun st => st.machine.returned.lookup ticket

def isShutDown (b : Bench) (station : Nat) : Bool :=
  (b.stations[station]?).any fun st => st.machine.closing = .closed

def abandon (i : Nat) (b : Bench) : Bench :=
  match b.stations[i]? with
  | some st => b.settle i { st with abandoned := true }
  | none => b

def new (session display config : String) (rehearsal : Rehearsal) (b : Bench) : Answer × Bench :=
  let d := b.display display
  let b := { b with displays := b.displays.put display d }
  match Config.read config with
  | .error e => (.badConfig e, b)
  | .ok c =>
    match Machine.create c.displayInfo c.bufferShape rehearsal d with
    | (.error e, d) => (.notCreated e, { b with displays := b.displays.put display d })
    | (.ok machine, d) =>
      let older := b.sessions.get? session
      let b := { b with
        displays := b.displays.put display d
        stations := b.stations ++ [{ display, render := c.render, machine }]
        sessions := b.sessions.put session b.stations.length }
      (.created machine.info machine.shared.slot.live, older.elim b b.abandon)

def release (i : Nat) (st : Station) (c : Checkout) (b : Bench) : Option Outcome × Bench :=
  let ticket := b.nextTicket
  let b := { b with nextTicket := ticket + 1 }.settle i
    { st with machine := st.machine.release ticket c }
  (b.outcome? i ticket, b)

def setStates (wanted : Visibility) (spawn : Spawn) :
    Nat → Machine Rehearsal → List Ending × Machine Rehearsal
  | 0, m => ([], m)
  | n + 1, m =>
    let (ending, m) := m.setState wanted spawn
    let (endings, m) := setStates wanted spawn n m
    (ending :: endings, m)

def tally (counts : Named Nat) (kind : String) : Named Nat :=
  counts.put kind ((counts.get? kind).getD 0 + 1)

/-- Shows frames one after the other and counts how they ended. On a bench that settles, threads that do
the same at once take turns. -/
def showFrames (i : Nat) (layers : List Layer) : Nat → Named Nat → Bench → Named Nat × Bench
  | 0, counts, b => (counts, b)
  | n + 1, counts, b =>
    match b.stations[i]? with
    | none => (counts, b)
    | some st =>
      match st.machine.acquire with
      | (.error e, _) => showFrames i layers n (tally counts e.kind) b
      | (.ok c, machine) =>
        match b.release i { st with machine } { c with layers } with
        | (some (.ok ()), b) => showFrames i layers n (tally counts "ok") b
        | (some (.error e), b) => showFrames i layers n (tally counts e.kind) b
        | (none, b) => showFrames i layers n counts b

def join (i : Nat) (st : Station) (buffer : String) (b : Bench) : Answer × Bench :=
  let over? (r : PendingRelease) : Option Outcome :=
    if r.buffer = buffer then st.machine.returned.lookup r.ticket else none
  match st.releases.findSome? over? with
  | some outcome =>
    (.ending (.returned outcome),
      b.modify i fun st => { st with releases := st.releases.eraseP fun r => (over? r).isSome })
  | none => (if st.releases.any (·.buffer = buffer) then .pending else .nothing, b)

def joinShutdown (i : Nat) (st : Station) (b : Bench) : Answer × Bench :=
  if !st.shutdownPending then (.nothing, b)
  else if b.isShutDown i then (.done, b.modify i fun st => { st with shutdownPending := false })
  else (.pending, b)

def onSession (session : String) (i : Nat) (st : Station) (b : Bench) :
    SessionCommand → Answer × Bench
  | .info => (.info st.machine.info, b)
  | .record => (.live (.ok st.machine.shared.slot.live), b)
  | .status => (.done, b)
  | .setState wanted =>
    let (ending, machine) := st.machine.setState wanted st.render.spawn
    (.ending ending, b.settle i { st with machine })
  | .setStateMany wanted n =>
    let (endings, machine) := setStates wanted st.render.spawn n st.machine
    (.endings endings, b.settle i { st with machine })
  | .acquire buffer =>
    match st.machine.acquire with
    | (.error e, _) => (.checkout (.error e), b)
    | (.ok c, machine) =>
      (.checkout (.ok c),
        { b with checkouts := b.checkouts.put buffer c }.settle i { st with machine })
  | .release buffer layers =>
    match b.checkouts.get? buffer with
    | none => (.badStep, b)
    | some c =>
      let ticket := b.nextTicket
      match { b with checkouts := b.checkouts.drop buffer }.release i st (c.add layers) with
      | (some outcome, b) => (.ending (.returned outcome), b)
      | (none, b) =>
        (.pending, b.modify i fun st => { st with releases := st.releases ++ [⟨buffer, ticket⟩] })
  | .shutdown =>
    if st.machine.shared.isDead then (.done, b)
    else
      let b := b.settle i { st with machine := st.machine.shutdown }
      if b.isShutDown i then (.done, b)
      else (.pending, b.modify i fun st => { st with shutdownPending := true })
  | .join buffer => b.join i st buffer
  | .joinShutdown => b.joinShutdown i st
  | .openGate =>
    let m := st.machine
    if m.isHeld then
      (.flag true,
        b.settle i { st with machine := { m with renderer := m.renderer.openGate m.phase } })
    else (.flag false, b)
  | .reallocate edit =>
    let (live, machine) := st.machine.reallocate (edit st.machine.shared.slot.live.shape)
    (.live live, b.settle i { st with machine })
  | .inFlight => (.flag st.machine.shared.inFlight, b)
  | .frame => (.frame (st.machine.renderer.painter.map (·.lastFrame)), b)
  | .pixel x y =>
    (.pixel (st.machine.renderer.painter.elim (.ok none) (·.lastFrame.pixel x y)), b)
  | .log => (.log st.machine.calls.reverse, b)
  | .frames n layers =>
    let (counts, b) := showFrames i layers n [] b
    (.counts counts, b)
  | .hammer threads frames =>
    let (counts, b) := showFrames i [] (threads * frames) [] b
    (.counts counts, b)
  | .drop => (.done, { b with sessions := b.sessions.drop session }.abandon i)

def run (b : Bench) : Command → Answer × Bench
  | .new session display config rehearsal => b.new session display config rehearsal
  | .on session command =>
    match b.station? session with
    | none => (.badStep, b)
    | some (i, st) => b.onSession session i st command
  | .fill buffer layers =>
    match b.checkouts.get? buffer with
    | none => (.badStep, b)
    | some c =>
      let c := c.add layers
      (.layers c.layers, { b with checkouts := b.checkouts.put buffer c })
  | .dropBuffer buffer =>
    match b.checkouts.get? buffer with
    | none => (.badStep, b)
    | some _ => (.done, { b with checkouts := b.checkouts.drop buffer })
  | .display name command =>
    let (answer, d) := (b.display name).answer command
    (.display answer d, { b with displays := b.displays.put name d })

def session? (b : Bench) (session : String) : Option Session :=
  (b.station? session).map fun (_, st) => st.machine.shared

end DisplaySurface.Bench
