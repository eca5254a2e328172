import Metrology.Attribute.Declaration
import Metrology.Catalog
import Metrology.Proofs.Attribute.Declaration
import Metrology.Proofs.Dimension
import Metrology.Proofs.Quantity
import Metrology.Proofs.Rational.Bisection
import Metrology.Proofs.Rational.Order
import Metrology.Proofs.Rational.Power
import Metrology.Proofs.Rational.Reachable
import Metrology.Proofs.Rational.Text
import Metrology.Proofs.Text
import Metrology.Proofs.Unit.Arrangement
import Metrology.Proofs.Unit.Coefficient
import Metrology.Proofs.Unit.Coherent
import Metrology.Proofs.Unit.Common
import Metrology.Proofs.Unit.Expression
import Metrology.Proofs.Unit.Factor
import Metrology.Proofs.Unit.Power
import Metrology.Proofs.Unit.Scale
import Metrology.Proofs.Unit.Size
import Metrology.Proofs.Wire.Quantity
import Metrology.Proofs.Wire.Value
import Metrology.Proofs.Wire.WithUnit
import Metrology.Quantity.Ratio
import Metrology.Wire.Parser
