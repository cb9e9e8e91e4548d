import Mediation.Rule.Basic

/-!
# The rules of the suite

Identifiers are a contract with the projects that configure the rules, so a released one never changes.
-/

namespace Mediation.Rule

/-- Where all rules are explained. -/
def documentation : String := "https://github.com/workleap/wl-extensions-mediatr"

/-- A rule of the suite. -/
def standard (id title : String) (format : Template) : Rule :=
  { id, title, format, helpUri := documentation }

/-- A rule whose message is its title. -/
def plain (id title : String) : Rule := standard id title [.text title]

/-- A rule about the end of a name. -/
def suffix (id title expected : String) : Rule :=
  standard id title [.text "'", .slot 0, .text ("' should end with " ++ expected)]

def requestName : Rule := suffix "GMDTR01" "Use 'Command' or 'Query' suffix" "'Command' or 'Query'"

def requestHandlerName : Rule :=
  suffix "GMDTR02" "Use 'CommandHandler' or 'QueryHandler' suffix" "'CommandHandler' or 'QueryHandler'"

def streamRequestName : Rule := suffix "GMDTR03" "Use 'StreamQuery' suffix" "'StreamQuery'"

def streamRequestHandlerName : Rule :=
  suffix "GMDTR04" "Use 'StreamQueryHandler' suffix" "'StreamQueryHandler'"

def notificationName : Rule :=
  suffix "GMDTR05" "Use 'Notification' or 'Event' suffix" "'Notification' or 'Event'"

def notificationHandlerName : Rule :=
  suffix "GMDTR06" "Use 'NotificationHandler' or 'EventHandler' suffix"
    "'NotificationHandler' or 'EventHandler'"

/-- Dispatch without type arguments. -/
def genericDispatch : Rule := plain "GMDTR07" "Use generic method instead"

/-- Dispatch with the default cancellation token. -/
def cancellationToken : Rule := plain "GMDTR08" "Provide a cancellation token"

/-- Calls from handler to handler. -/
def handlerCall : Rule :=
  standard "GMDTR09" "Handlers should not call other handlers"
    [.text "'", .slot 0, .text "' should not call the handler '", .slot 1,
      .text "' directly, use the mediator instead"]

/-- Visible handlers. -/
def publicHandler : Rule :=
  standard "GMDTR10" "Handlers should not be public"
    [.text "Handler '", .slot 0, .text "' should not be public"]

/-- Calls of the registration method of the library. -/
def registrationCall : Rule :=
  plain "GMDTR11" "Use 'AddMediator' extension method instead of 'AddMediatR'"

/-- Dispatch by a method without the suffix of asynchronous methods. -/
def asyncDispatch : Rule := plain "GMDTR12" "Use method ending with 'Async' instead"

/-- Names of handlers of several families. -/
def mixedHandlerName : Rule :=
  standard "GMDTR13" "Use 'Handler' suffix"
    [.text "'", .slot 0, .text "' implements several handler interfaces and should end with 'Handler'"]

def all : List Rule :=
  [requestName, requestHandlerName, streamRequestName, streamRequestHandlerName, notificationName,
    notificationHandlerName, genericDispatch, cancellationToken, handlerCall, publicHandler,
    registrationCall, asyncDispatch, mixedHandlerName]

def ofId? (id : String) : Option Rule := all.find? fun rule => rule.id = id

end Mediation.Rule
