import JobDispatch.Listener
import JobDispatch.Offline.ConfigForge
import JobDispatch.Offline.Recorder

namespace JobDispatch.Replay

open Log.Record Text

variable {m : Type → Type} [Monad m]

def link (files : Files m) (configDir : String) (side : Side) :
    Link (StateT UInt64 m) (Forge (StateT UInt64 m)) where
  connect := do
    let x ← ConfigForge.connect files.lift side (joinPath configDir side.name)
    return x.map (·.map (ConfigForge.forge files.lift))

def collaborators (files : Files m) (configDir : String) :
    Collaborators Extras.none (StateT UInt64 m) where
  upstream := link files configDir .upstream
  downstream := link files configDir .downstream
  packaging := Recorder.packaging files ⟨joinPath configDir Side.downstream.name⟩
  act := nofun

def dispatcher (upstreamBranch : String) : Logged (Except RegistryError (Dispatcher Extras.none)) :=
  let registry := Registry.standard
  match registry.value with
  | .error e => ⟨.error e, registry.log⟩
  | .ok r =>
    ⟨.ok ⟨⟨upstreamBranch⟩, r⟩, registry.log ++ [info .session "Handler registry ready"
      [("handlers", toString r.size), ("topics", quotedList r.topics)]]⟩

def firstBuild : UInt64 := 1

def run (files : Files m) (configDir : String) (d : Dispatcher Extras.none)
    (deliveries : List EventStream.Delivery) :
    m (Except StreamError Summary × List Log.Record) := do
  let (o, _) ← ((Listener.run d deliveries).run (collaborators files configDir)).run firstBuild
  return (o.value, o.log)

end JobDispatch.Replay
