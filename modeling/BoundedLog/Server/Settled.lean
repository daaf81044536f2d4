import BoundedLog.Server

/-!
# Settled servers

A server settles when it is left alone: its threads take steps until each of them waits for
something that does not come. A server that does not stop ends up listening for a client; one
that stops loses patience with clients that are silent and ends up closed.
-/

namespace BoundedLog.Server

/-- Takes at most `fuel` steps, each the first possible one among the choices. -/
def settleBy (choices : Server → List Action) : Nat → Server → Server
  | 0, s => s
  | fuel + 1, s =>
    match (choices s).findSome? s.step with
    | none => s
    | some next => settleBy choices fuel next

/-- What happens of its own accord when nothing else does. As long as the server does not stop,
time is of no account: no interval ends and no client is silent for too long. When it stops, every
worker that waits for a silent client comes to know it. -/
def idleActions (s : Server) : List Action :=
  if s.hub.stopped then
    [.tick, .supervise] ++ (List.range s.crew.workers.length).map fun place =>
      .disturb (place + 1) (.plain .wouldBlock)
  else if s.supervisor = .listening then [] else [.supervise]

/-- What the ticker and the pulse do of their own accord. -/
def heartActions (now : Moment) (s : Server) : List Action :=
  if s.hub.stopped then [.tick, .beat now] else [.beat now]

/-- What the threads of the server do of their own accord, and those who asked it to stop. -/
def ownActions (now : Moment) (s : Server) : List Action :=
  (List.range s.requests.length).map .continueStop
    ++ (List.range s.crew.workers.length).map (fun place => .work (place + 1))
    ++ [.collect, .beat now] ++ s.idleActions

/-- The number of steps in which the server settles: a few for every worker, request and permit, one
for every line that has arrived, and one for every worker in every round of the collector. -/
def patience (s : Server) : Nat :=
  let arrived := s.crew.workers.foldl (fun total worker =>
    total + Arrival.unread worker.job.session.arrivals) 0
  let rounds := s.crew.workers.length + s.requests.length + s.crew.wakes + 5
  arrived + 16 * (rounds + s.hub.pulseWakes) + rounds * s.crew.workers.length

/-- Lets all threads run until they wait. -/
def settle (now : Moment) (s : Server) : Server := settleBy (ownActions now) s.patience s

/-- Lets the ticker and the pulse run until they wait. -/
def settleHeart (now : Moment) (s : Server) : Server :=
  settleBy (heartActions now) s.patience s

/-- Takes all steps of a request to stop. -/
def stop (s : Server) : Server :=
  let place := s.requests.length
  (s.run [.requestStop, .continueStop place, .continueStop place]).getD s

end BoundedLog.Server
