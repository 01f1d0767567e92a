import Rbac.Text.Basic

namespace Rbac

inductive LogLevel where
  | info
  | warning
  | error
deriving DecidableEq, Repr

def LogLevel.text : LogLevel → String
  | .info => "INFO"
  | .warning => "WARNING"
  | .error => "ERROR"

structure LogLine where
  level : LogLevel
  logger : String
  message : Text
deriving DecidableEq, Repr

namespace LogLine

def startup (level : LogLevel) (message : Text) : LogLine :=
  ⟨level, "accesscontrol.main", message⟩

def access (message : Text) : LogLine :=
  ⟨.info, "accesscontrol.access", message⟩

def problem (level : LogLevel) (message : Text) : LogLine :=
  ⟨level, "accesscontrol.interfaces.api.errors", message⟩

def health (message : Text) : LogLine :=
  ⟨.warning, "accesscontrol.interfaces.api.resources.health", message⟩

def pool (message : Text) : LogLine :=
  ⟨.info, "accesscontrol.interfaces.api.middleware.pool_lifespan", message⟩

def migrations (message : Text) : LogLine :=
  ⟨.info, "accesscontrol.infrastructure.persistence.migrations", message⟩

def connection (message : Text) : LogLine :=
  ⟨.warning, "accesscontrol.infrastructure.persistence.postgres.connection", message⟩

def identity (message : Text) : LogLine :=
  ⟨.warning, "accesscontrol.infrastructure.auth.keycloak_provider", message⟩

def event (message : Text) : LogLine :=
  ⟨.info, "accesscontrol.infrastructure.events.logging_publisher", message⟩

def audit (message : Text) : LogLine :=
  ⟨.warning, "accesscontrol.infrastructure.events.audit_publisher", message⟩

end LogLine
end Rbac
