import TexListing.Html.Document
import TexListing.Listing.Conversion
import TexListing.Proofs.Color.HexBytes
import TexListing.Proofs.Color.Naming
import TexListing.Proofs.Color.Nearest
import TexListing.Proofs.Latex.Tokens
import TexListing.Proofs.Listing.Attributes
import TexListing.Proofs.Listing.Breaks
import TexListing.Proofs.Listing.Definitions
import TexListing.Proofs.Listing.Recursion
import TexListing.Proofs.Listing.Serialized
import TexListing.Proofs.Listing.Stream
import TexListing.Proofs.Listing.Unseen
import TexListing.Proofs.Listing.Growth
import TexListing.Proofs.Style.StrictReading
import TexListing.Proofs.Style.ImportantMark
import TexListing.Proofs.Style.Precedence
import TexListing.Proofs.Style.Written
import TexListing.Proofs.Listing.Records
import TexListing.Proofs.Html.Image
import TexListing.Proofs.Markup.Descendants
