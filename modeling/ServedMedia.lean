import ServedMedia.Main
import ServedMedia.Proofs.Clamping
import ServedMedia.Proofs.Composition
import ServedMedia.Proofs.Decomposing
import ServedMedia.Proofs.Equivalence
import ServedMedia.Proofs.Escaping
import ServedMedia.Proofs.Qualification
import ServedMedia.Proofs.Serving
import ServedMedia.Proofs.Position
import ServedMedia.Proofs.Walk
import ServedMedia.Proofs.Shape
import ServedMedia.Proofs.Reading
import ServedMedia.Proofs.Replacing
import ServedMedia.Proofs.Sites
import ServedMedia.Proofs.Passes
import ServedMedia.Proofs.Views
import ServedMedia.Proofs.Scans
import ServedMedia.Proofs.Repeating
import ServedMedia.Proofs.Independence
import ServedMedia.Proofs.Relative
import ServedMedia.Proofs.Parsing
import ServedMedia.Proofs.Naming
import ServedMedia.Proofs.Validation
import ServedMedia.Proofs.Encoding
import ServedMedia.Proofs.Recognition
import ServedMedia.Proofs.Following
import ServedMedia.Proofs.Spelling
import ServedMedia.Proofs.Converting
import ServedMedia.Proofs.Segmenting
import ServedMedia.Proofs.Recomposing
import ServedMedia.Proofs.Factoring
import ServedMedia.Proofs.Kinds
import ServedMedia.Proofs.Prediction
import ServedMedia.Proofs.Writing
import ServedMedia.Proofs.InPlace
import ServedMedia.Proofs.Viewing
import ServedMedia.Proofs.Mounting
import ServedMedia.Proofs.Offering
import ServedMedia.Proofs.Literals
import ServedMedia.Proofs.Constants
import ServedMedia.Proofs.Standing
import ServedMedia.Proofs.Declaring
import ServedMedia.Proofs.Normalizing
import ServedMedia.Proofs.Checking
import ServedMedia.Proofs.Climbing
import ServedMedia.Proofs.Searching
