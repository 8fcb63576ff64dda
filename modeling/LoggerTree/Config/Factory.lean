import LoggerTree.Config
import LoggerTree.Facade

/-! # Factories by configuration

    The backend and the factory that a configuration asks for.
-/

namespace LoggerTree.Config

/-- A backend with the thresholds of the configuration, which sends to the subscriber. -/
def backend (c : Config) : Backend :=
  .relay { directives := c.directives }

/-- A factory over such a backend, which names loggers as the configuration says. -/
def factory (c : Config) (backend : Nat) : Factory :=
  { backend, strategy := c.naming.strategy }

end LoggerTree.Config
