import Mediation.Message.Role
import Mediation.Symbol.Name

/-!
# The library under study

The definitions of the message library that the conventions are about, by metadata name and assembly.
-/

namespace Mediation.Library

/-- The assembly of the dispatcher and the handler interfaces. -/
def mainAssembly : String := "MediatR"

/-- The assembly of the message interfaces. -/
def contractsAssembly : String := "MediatR.Contracts"

/-- An interface that gives a role to the types that implement it. -/
structure Marker where
  key : DefinitionKey
  role : Role
  deriving DecidableEq

def markers : List Marker :=
  [⟨⟨"MediatR.IRequest", contractsAssembly⟩, .request⟩,
    ⟨⟨"MediatR.IRequest`1", contractsAssembly⟩, .request⟩,
    ⟨⟨"MediatR.IStreamRequest`1", contractsAssembly⟩, .streamRequest⟩,
    ⟨⟨"MediatR.INotification", contractsAssembly⟩, .notification⟩,
    ⟨⟨"MediatR.IRequestHandler`1", mainAssembly⟩, .requestHandler⟩,
    ⟨⟨"MediatR.IRequestHandler`2", mainAssembly⟩, .requestHandler⟩,
    ⟨⟨"MediatR.IStreamRequestHandler`2", mainAssembly⟩, .streamRequestHandler⟩,
    ⟨⟨"MediatR.INotificationHandler`1", mainAssembly⟩, .notificationHandler⟩]

/-- The dispatcher and the interfaces of its abilities. -/
def dispatchers : List DefinitionKey :=
  [⟨"MediatR.Mediator", mainAssembly⟩, ⟨"MediatR.IMediator", mainAssembly⟩,
    ⟨"MediatR.ISender", mainAssembly⟩, ⟨"MediatR.IPublisher", mainAssembly⟩]

def registration : DefinitionKey :=
  ⟨"Microsoft.Extensions.DependencyInjection.ServiceCollectionExtensions", mainAssembly⟩

/-- The registration method that is not to be called. -/
def registrationMethod : String := "AddMediatR"

/-- The method by which a handler is called. -/
def handleMethod : String := "Handle"

/-- The methods of the dispatcher, without the suffix for asynchronous ones. -/
def dispatchMethods : List String := ["Send", "Publish", "CreateStream"]

/-- The methods of the dispatcher that should carry the suffix. -/
def asyncMethods : List String := ["Send", "Publish"]

def asyncSuffix : String := "Async"

end Mediation.Library
