import MailRelay.Proofs.Api.Answers

set_option autoImplicit false

namespace MailRelay

namespace Reception

variable {r : Reception} {m : Message} {now : Instant}

end Reception

namespace Api

namespace Carries

variable {α : Type} {s : ApiSettings} {reader : JsonReader α} {request : HttpRequest} {value : α}
  {route : Route}

end Carries

variable (stamps : Stamps)

variable {s : ApiSettings} {requests : List SendRequest} {singles : List (Nat × HttpRequest)}

end Api

end MailRelay
