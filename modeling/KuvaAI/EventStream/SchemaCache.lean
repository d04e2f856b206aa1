import KuvaAI.Python.Async

/-! The cached lookup of a topic's serializer or deserializer, which publisher.py,
subscriber.py and consumer_group.py each have a copy of. -/
namespace KuvaAI.EventStream
open Python Coroutine

structure SchemaCache where
  locked : Bool
  topics : List String

def SchemaCache.empty : SchemaCache := ⟨false, []⟩

structure CacheField (σ : Type) where
  view : σ → SchemaCache
  update : (SchemaCache → SchemaCache) → σ → σ

section Lookup

variable {σ Q : Type} {A : Q → Type} (field : CacheField σ) (acquire : Coroutine σ A Interrupt Unit)
  (create : String → Coroutine σ A Interrupt Unit)

/-- `get_serializer` and `get_deserializer`: `acquire` waits for a lock that is taken and
`create` builds the codec of a topic. -/
def getCodec (topic : String) : Coroutine σ A Interrupt Unit := do
  let s ← get
  if (field.view s).locked then
    acquire
  modify (field.update fun cache => { cache with locked := true })
  finallyDo (lookup topic) (modify (field.update fun cache => { cache with locked := false }))
where
  lookup (topic : String) : Coroutine σ A Interrupt Unit := do
    let s ← get
    if topic ∈ (field.view s).topics then
      return ()
    else do
      create topic
      modify (field.update fun cache => { cache with topics := topic :: cache.topics })

variable {K : ∀ {α : Type}, Coroutine σ A Interrupt α → Prop}

theorem closed_getCodec (closed : Closed K)
    (updates : ∀ f, K (modify (field.update f) : Coroutine σ A Interrupt PUnit)) (acquires : K acquire)
    (creates : ∀ topic, K (create topic)) (topic : String) :
    K (getCodec field acquire create topic) := by
  have looksUp : K (getCodec.lookup field create topic) :=
    closed.bind closed.get fun _ => Closed.ite (closed.pure _)
      (closed.bind (creates topic) fun _ => updates _)
  refine closed.bind closed.get fun s => ?_
  have locks : K (do modify (field.update fun cache => { cache with locked := true })
                     finallyDo (getCodec.lookup field create topic)
                       (modify (field.update fun cache => { cache with locked := false })) :
                       Coroutine σ A Interrupt Unit) :=
    closed.bind (updates _) fun _ => closed.finallyDo looksUp (updates _)
  exact Closed.ite (closed.bind acquires fun _ => locks) locks

end Lookup

end KuvaAI.EventStream
