import Rossoctl.Broker.Isolation
import Rossoctl.Broker.Binding
import Rossoctl.Broker.Registry
import Rossoctl.Broker.Publication
import Rossoctl.Broker.Answers
import Rossoctl.Broker.Clock
import Rossoctl.Signature.X5C
import Rossoctl.Signature.Algorithms
import Rossoctl.Signature.Generic
import Rossoctl.Signature.TrustBundle
import Rossoctl.Cards.Label
import Rossoctl.Cards.Strict
import Rossoctl.Cards.SelfUpdates
import Rossoctl.Cards.Egress
import Rossoctl.Cards.Rollout
import Rossoctl.Bundle.Staleness
import Rossoctl.Bundle.Composition
import Rossoctl.Webhook.Collisions
import Rossoctl.Webhook.Services
import Rossoctl.Webhook.Interception
import Rossoctl.Webhook.Mounted
import Rossoctl.Webhook.Reinvocation
import Rossoctl.Webhook.Precedence
import Rossoctl.Keycloak.Isolation
import Rossoctl.Keycloak.Gates
import Rossoctl.Keycloak.Registered
import Rossoctl.Mesh.Restart
import Rossoctl.Runtime.Sandbox
import Rossoctl.Runtime.Enrolment
import Rossoctl.Runtime.Discovery
import Rossoctl.Runtime.Watches
import Rossoctl.Runtime.Rendering
import Rossoctl.Broker.StateParameter
import Rossoctl.Broker.Endpoints
import Rossoctl.Bundle.Identity
