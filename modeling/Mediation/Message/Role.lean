/-!
# Roles

The parts that a type can play in message dispatch: messages of three families, and their handlers.
-/

namespace Mediation

inductive Role where
  | request
  | streamRequest
  | notification
  | requestHandler
  | streamRequestHandler
  | notificationHandler
  | unclassified
  deriving DecidableEq, Inhabited

namespace Role

def all : List Role :=
  [.request, .streamRequest, .notification, .requestHandler, .streamRequestHandler, .notificationHandler,
    .unclassified]

def label : Role → String
  | .request => "request"
  | .streamRequest => "stream-request"
  | .notification => "notification"
  | .requestHandler => "request-handler"
  | .streamRequestHandler => "stream-request-handler"
  | .notificationHandler => "notification-handler"
  | .unclassified => "unclassified"

def ofLabel? (name : String) : Option Role := all.find? fun role => role.label = name

def isHandler : Role → Bool
  | .requestHandler | .streamRequestHandler | .notificationHandler => true
  | .request | .streamRequest | .notification | .unclassified => false

/-- The roles that a type can have, the one that decides first. -/
def priority : List Role :=
  [.streamRequestHandler, .requestHandler, .notificationHandler, .streamRequest, .request, .notification]

end Role

end Mediation
